import QuadDaq.Proofs.Delivery.Balance

/-!
# Batches wait only behind a call

**A data worker stops for nothing but an empty queue or a consumer that does not return.**
So wherever batches wait in the current outlet, its data worker is inside a call
(`Drained`). Everything that ends with the workers running establishes this, whatever was
the case before.
-/

namespace QuadDaq

open Relation (ReflTransGen)

/-- Batches wait only while the data worker is inside a call. -/
def Outlet.Drained (o : Outlet) : Prop := o.dataCall = none → o.batches.items = []

theorem Outlet.Drained.of_sameData {o o' : Outlet} (h : o.Drained) (hsame : o.SameData o') :
    o'.Drained := by
  intro hcall
  rw [hsame.batches]
  exact h (hsame.dataCall.symm.trans hcall)

namespace Consumers

theorem endEvent_same (kind : EventKind) (c : Consumers) (o : Outlet) :
    o.SameData (c.endEvent kind o).2 := by
  unfold endEvent
  split
  · split <;> exact ⟨rfl, rfl, rfl, rfl, rfl⟩
  · exact ⟨rfl, rfl, rfl, rfl, rfl⟩

/-- The event worker concerns no batch. -/
theorem runEvents_same (n : Nat) :
    ∀ (c : Consumers) (o : Outlet), o.SameData (runEvents n c o).2 := by
  induction n with
  | zero => exact fun _ _ => ⟨rfl, rfl, rfl, rfl, rfl⟩
  | succ n ih =>
      intro c o
      unfold runEvents
      cases h : c.beginEvent o with
      | none => exact ⟨rfl, rfl, rfl, rfl, rfl⟩
      | some p =>
          have hbegin : o.SameData p.2.2 := (beginEvent_same h).2
          by_cases hheld : p.2.1.holds.event p.1
          · simp only [if_pos hheld]
            exact hbegin.trans (ih _ _)
          · simp only [if_neg hheld]
            exact (hbegin.trans (endEvent_same _ _ _)).trans (ih _ _)

theorem runData_drained (n : Nat) :
    ∀ (c : Consumers) (o : Outlet), o.closed = false → o.batches.items.length < n →
      (runData n c o).2.Drained := by
  induction n with
  | zero => exact fun _ _ _ hlt => absurd hlt (Nat.not_lt_zero _)
  | succ n ih =>
      intro c o hopen hlt
      unfold runData
      cases hcall : o.dataCall with
      | some b =>
          have hnone : c.beginBatch o = none := by simp [beginBatch, hcall]
          rw [hnone]
          exact fun hfree => absurd (hcall.symm.trans hfree) (by simp)
      | none =>
          rw [c.beginBatch_eq hopen hcall]
          cases hitems : o.batches.items with
          | nil => exact fun _ => hitems
          | cons b rest =>
              rw [hitems, List.length_cons] at hlt
              simp only [List.head?_cons, Option.map_some]
              by_cases hheld : (c.note (.batch o.stream b o.dropped)).holds.data
              · -- The call that has begun is not over.
                rw [if_pos hheld]
                exact fun hfree => absurd hfree (by simp)
              · rw [if_neg hheld]
                refine ih _ _ hopen ?_
                change o.batches.items.tail.length < n
                rw [hitems, List.tail_cons]
                exact Nat.lt_of_succ_lt_succ hlt

theorem runWorkers_drained (c : Consumers) {o : Outlet} (hopen : o.closed = false) :
    (c.runWorkers o).2.Drained := by
  have hdata := runData_drained (o.batches.size + 1) c o hopen (Nat.lt_succ_self _)
  unfold runWorkers
  generalize runData (o.batches.size + 1) c o = p at hdata ⊢
  exact hdata.of_sameData (runEvents_same _ p.1 p.2)

theorem endCallOf_drained (chosen : Nat → Bool) (kind : ConsumerKind) (c : Consumers) {o : Outlet}
    (hopen : o.closed = false) : (c.endCallOf chosen kind o).2.Drained := by
  unfold endCallOf
  by_cases h : chosen o.stream
  · simp only [if_pos h]
    exact runWorkers_drained _ ((works_closed_eq (endCall_works kind c o)).1.trans hopen)
  · simp only [if_neg h]
    exact runWorkers_drained _ hopen

end Consumers

namespace Delivery

/-- Batches wait in the current outlet only while its data worker is inside a call. -/
def Drained (d : Delivery) : Prop := ∀ o, d.current = some o → o.Drained

theorem deliver_drained {d : Delivery} (ht : d.Tidy) : d.deliver.Drained := by
  unfold deliver
  cases ho : d.current with
  | none => exact fun o ho' => absurd (ho.symm.trans ho') (by simp)
  | some o =>
      intro o' ho'
      rw [← Option.some.inj ho']
      exact Consumers.runWorkers_drained _ (ht.current o ho)

theorem endCalls_drained {d : Delivery} (ht : d.Tidy) (chosen : Nat → Bool)
    (kind : ConsumerKind) : (d.endCalls chosen kind).Drained := by
  unfold endCalls
  cases ho : d.current with
  | none => exact fun o ho' => nomatch ho'
  | some o =>
      intro o' ho'
      rw [← Option.some.inj ho']
      exact Consumers.endCallOf_drained _ _ _ (ht.current o ho)

end Delivery

end QuadDaq

import QuadDaq.Proofs.Delivery.Draining
import QuadDaq.Proofs.Delivery.Order

/-!
# A data consumer that never blocks

**Without a held data consumer no batch waits from one command to the next.** Then the
current outlet is always found empty and its data worker free (`Prompt`). A tick publishes
one batch at most, which finds room in any queue and is delivered with the same tick
(`publishAll_deliver_prompt`), so nothing is ever evicted.
-/

namespace QuadDaq

open Relation (ReflTransGen)

/-- The outlet is open, its data worker is inside no call, and at most `n` batches wait. -/
structure Outlet.Free (n : Nat) (o : Outlet) : Prop where
  opened : o.closed = false
  call : o.dataCall = none
  few : o.batches.items.length ≤ n

theorem Outlet.Free.mono {m n : Nat} {o : Outlet} (h : o.Free m) (hle : m ≤ n) : o.Free n :=
  ⟨h.opened, h.call, Nat.le_trans h.few hle⟩

theorem Outlet.Free.of_sameData {n : Nat} {o o' : Outlet} (h : o.Free n) (hsame : o.SameData o') :
    o'.Free n :=
  ⟨hsame.closed.trans h.opened, hsame.dataCall.trans h.call, by rw [hsame.batches]; exact h.few⟩

theorem Outlet.Free.items_eq_nil {o : Outlet} (h : o.Free 0) : o.batches.items = [] :=
  List.eq_nil_of_length_eq_zero (Nat.le_zero.mp h.few)

/-! ### Workers -/

/-- An outlet in which no batch waits stays so. -/
theorem Work.free {c c' : Consumers} {o o' : Outlet} (h : Work (c, o) (c', o')) (ho : o.Free 0) :
    o'.Free 0 := by
  rcases h.data_cases with ⟨b, rest, -, -, hitems, -⟩ | ⟨b, hcall, -⟩ | ⟨-, hsame⟩
  · rw [ho.items_eq_nil] at hitems
    cases hitems
  · rw [ho.call] at hcall
    cases hcall
  · exact ho.of_sameData hsame

namespace Consumers

theorem setRegistration_holds (c : Consumers) (kind : EventKind) (r : Registration String) :
    (c.setRegistration kind r).holds = c.holds := by
  cases kind <;> rfl

theorem beginCall_holds (c : Consumers) (o : Outlet) (kind : EventKind)
    (called : String → DeliveryEvent) (unclaimed : DeliveryEvent) :
    (c.beginCall o kind called unclaimed).1.holds = c.holds := by
  unfold beginCall
  split
  · rfl
  · exact setRegistration_holds _ _ _

theorem beginEvent_holds {c c' : Consumers} {o o' : Outlet} {kind : EventKind}
    (h : c.beginEvent o = some (kind, c', o')) : c'.holds = c.holds := by
  unfold beginEvent at h
  split at h
  · cases h
  split at h
  · obtain ⟨-, hcall⟩ := Prod.mk.inj (Option.some.inj h)
    exact (congrArg (fun p => p.1.holds) hcall).symm.trans (beginCall_holds _ _ _ _ _)
  split at h
  · cases h
  · obtain ⟨-, hcall⟩ := Prod.mk.inj (Option.some.inj h)
    exact (congrArg (fun p => p.1.holds) hcall).symm.trans (beginCall_holds _ _ _ _ _)

end Consumers

/-- A worker holds nobody. -/
theorem Work.holds_eq {p q : Consumers × Outlet} (h : Work p q) : q.1.holds = p.1.holds := by
  cases h with
  | batchBegan _ _ _ => rfl
  | batchEnded _ => rfl
  | eventBegan hbegin => exact Consumers.beginEvent_holds hbegin
  | eventEnded _ => exact Consumers.setRegistration_holds _ _ _

theorem works_holds {p q : Consumers × Outlet} (h : ReflTransGen Work p q) :
    q.1.holds = p.1.holds := by
  induction h with
  | refl => rfl
  | tail _ hwork ih => exact hwork.holds_eq.trans ih

namespace Consumers

/-- A data worker that is not held takes up everything that waits. -/
theorem runData_free (n : Nat) :
    ∀ (c : Consumers) (o : Outlet), c.holds.data = false → o.Free n →
      (runData (n + 1) c o).2.Free 0 := by
  induction n with
  | zero =>
      intro c o _ ho
      rw [runData, c.beginBatch_eq ho.opened ho.call, ho.items_eq_nil]
      exact ho
  | succ n ih =>
      intro c o hc ho
      rw [runData, c.beginBatch_eq ho.opened ho.call]
      cases hitems : o.batches.items with
      | nil => exact ⟨ho.opened, ho.call, by simp [hitems]⟩
      | cons b rest =>
          have hunheld : ¬(c.note (.batch o.stream b o.dropped)).holds.data = true := by
            rw [note, hc]
            exact Bool.false_ne_true
          simp only [List.head?_cons, Option.map_some, if_neg hunheld]
          refine ih _ _ hc ⟨ho.opened, rfl, ?_⟩
          have hfew := ho.few
          rw [hitems, List.length_cons] at hfew
          change o.batches.items.tail.length ≤ n
          rw [hitems, List.tail_cons]
          omega

theorem runWorkers_free {c : Consumers} {n : Nat} {o : Outlet} (hc : c.holds.data = false)
    (ho : o.Free n) : (c.runWorkers o).2.Free 0 := by
  have hdata := runData_free o.batches.size c o hc ⟨ho.opened, ho.call, Nat.le_refl _⟩
  unfold runWorkers
  generalize runData (o.batches.size + 1) c o = p at hdata ⊢
  exact hdata.of_sameData (runEvents_same _ p.1 p.2)

theorem endCallsOf_holds (chosen : Nat → Bool) (kind : ConsumerKind) (outlets : List Outlet) :
    ∀ c : Consumers, (c.endCallsOf chosen kind outlets).1.holds = c.holds := by
  induction outlets with
  | nil => exact fun c => rfl
  | cons o rest ih =>
      intro c
      exact (ih _).trans (works_holds (endCallOf_works chosen kind c o))

end Consumers

/-! ### The delivery side -/

namespace Delivery

/-- The data consumer is not held, and no batch waits for it. -/
structure Prompt (d : Delivery) : Prop where
  unheld : d.holds.data = false
  free : ∀ o, d.current = some o → o.Free 0

/-- Of two publications without a delivery between them only the second may evict. -/
theorem publish_free {d : Delivery} {n : Nat} (hd : ∀ o, d.current = some o → o.Free n) (k : Nat)
    (signal : Signal) (hfew : n + signal.batch?.toList.length ≤ 1) :
    (d.publish k signal).lost = d.lost ∧
      ∀ o, (d.publish k signal).current = some o → o.Free (n + signal.batch?.toList.length) := by
  have hfate := d.publish_fate k signal
  generalize d.publish k signal = d' at hfate ⊢
  cases hfate with
  | other hnone hcurrent hlost _ _ =>
      refine ⟨hlost, fun o' ho' => ?_⟩
      rw [hnone]
      rcases hcurrent with hsame | ⟨o, o₁, ho, ho₁, hsame⟩
      · exact hd o' (hsame ▸ ho')
      · rw [← Option.some.inj (ho₁.symm.trans ho')]
        exact (hd o ho).of_sameData hsame
  | late _ hcurrent hlost _ _ =>
      exact ⟨hlost, fun o' ho' => (hd o' (hcurrent ▸ ho')).mono (Nat.le_add_right _ _)⟩
  | @queued b _ _ o o₁ ho _ ho₁ hsame _ hitems hlost _ _ =>
      refine ⟨hlost, fun o' ho' => ?_⟩
      have hfree := hd o ho
      rw [← Option.some.inj (ho₁.symm.trans ho')]
      refine ⟨hsame.closed.trans hfree.opened, hsame.dataCall.trans hfree.call, ?_⟩
      rw [hitems, List.length_append]
      exact Nat.add_le_add_right hfree.few 1
  | @evicted b oldest _ _ _ o _ ho _ _ hfull _ _ _ _ _ _ _ =>
      -- A full queue holds one batch at least.
      have hone : n + 1 ≤ 1 := hfew
      have := (hd o ho).few
      have := o.batches.capacity_pos
      omega

theorem publishAll_free (k : Nat) (signals : List Signal) :
    ∀ {d : Delivery} {n : Nat}, (∀ o, d.current = some o → o.Free n) →
      n + (signals.filterMap Signal.batch?).length ≤ 1 →
      (d.publishAll k signals).lost = d.lost ∧ ∀ o, (d.publishAll k signals).current = some o →
        o.Free (n + (signals.filterMap Signal.batch?).length) := by
  induction signals with
  | nil => exact fun hd _ => ⟨rfl, hd⟩
  | cons signal rest ih =>
      intro d n hd hfew
      have hcount : ((signal :: rest).filterMap Signal.batch?).length =
          signal.batch?.toList.length + (rest.filterMap Signal.batch?).length := by
        cases hs : signal.batch? <;> simp [hs, Nat.add_comm]
      rw [hcount, ← Nat.add_assoc] at hfew ⊢
      obtain ⟨hlost, hfree⟩ := publish_free hd k signal (by omega)
      obtain ⟨hlost', hfree'⟩ := ih hfree hfew
      exact ⟨hlost'.trans hlost, hfree'⟩

theorem publishAll_holds (k : Nat) (signals : List Signal) :
    ∀ d : Delivery, (d.publishAll k signals).holds = d.holds := by
  induction signals with
  | nil => exact fun d => rfl
  | cons signal rest ih => exact fun d => (ih _).trans (d.publish_frame k signal).calls.holds

/-- What the current stream publishes does not come too late. -/
theorem publishAll_late (k : Nat) (signals : List Signal) :
    ∀ {d : Delivery}, d.current.map Outlet.stream = some k →
      (d.publishAll k signals).late = d.late := by
  induction signals with
  | nil => exact fun _ => rfl
  | cons signal rest ih =>
      intro d hd
      have hcurrent := (publish_current_stream d k signal).trans hd
      refine (ih hcurrent).trans ?_
      have hfate := d.publish_fate k signal
      generalize d.publish k signal = d' at hfate ⊢
      cases hfate with
      | other _ _ _ hlate _ => exact hlate
      | late hother _ _ _ _ =>
          obtain ⟨o, ho, hk⟩ := Option.map_eq_some_iff.mp hd
          exact absurd hk (hother o ho)
      | queued _ _ _ _ _ _ _ hlate _ => exact hlate
      | evicted _ _ _ _ _ _ _ _ _ hlate _ => exact hlate

variable {d : Delivery}

/-- Signals that are no batches leave nothing waiting. -/
theorem Prompt.publishAll (h : d.Prompt) (k : Nat) {signals : List Signal}
    (hnone : signals.filterMap Signal.batch? = []) :
    (d.publishAll k signals).Prompt ∧ (d.publishAll k signals).lost = d.lost := by
  obtain ⟨hlost, hfree⟩ := publishAll_free k signals h.free (by simp [hnone])
  rw [hnone] at hfree
  exact ⟨⟨by rw [publishAll_holds, h.unheld], hfree⟩, hlost⟩

theorem turns_lost {d' : Delivery} (h : ReflTransGen Turn d d') : d'.lost = d.lost := by
  induction h with
  | refl => rfl
  | tail _ hturn ih => exact hturn.loses_nothing.2.1.trans ih

/-- Delivery empties the outlet of a data consumer that is not held. -/
theorem deliver_prompt {n : Nat} (hunheld : d.holds.data = false)
    (hfree : ∀ o, d.current = some o → o.Free n) : d.deliver.Prompt := by
  unfold deliver
  cases ho : d.current with
  | none => exact ⟨hunheld, by simp [ho]⟩
  | some o =>
      refine ⟨?_, ?_⟩
      · exact (congrArg Holds.data (works_holds (Consumers.runWorkers_works _ o))).trans hunheld
      · intro o' ho'
        rw [← Option.some.inj ho']
        exact Consumers.runWorkers_free hunheld (hfree o ho)

/-- One batch at most is delivered before anything else is published. -/
theorem Prompt.publishAll_deliver (h : d.Prompt) (k : Nat) {signals : List Signal}
    (hone : (signals.filterMap Signal.batch?).length ≤ 1) :
    (d.publishAll k signals).deliver.Prompt ∧ (d.publishAll k signals).deliver.lost = d.lost := by
  obtain ⟨hlost, hfree⟩ := publishAll_free k signals h.free (by rwa [Nat.zero_add])
  refine ⟨deliver_prompt (by rw [publishAll_holds, h.unheld]) hfree, ?_⟩
  exact (turns_lost (deliver_turns _)).trans hlost

/-- Consumers and workers leave nothing waiting. -/
theorem Turn.free {d' : Delivery} (h : Turn d d') (hd : ∀ o, d.current = some o → o.Free 0) :
    ∀ o, d'.current = some o → o.Free 0 := by
  cases h with
  | worked ho hwork =>
      intro o' ho'
      rw [← Option.some.inj ho']
      exact hwork.free (hd _ ho)
  | workedRetired _ _ => exact hd
  | letGo _ _ => exact hd
  | registered kind consumer => exact hd
  | held kind on => exact hd

theorem endCalls_holds (d : Delivery) (chosen : Nat → Bool) (kind : ConsumerKind) :
    (d.endCalls chosen kind).holds = d.holds := by
  have hretired := d.endCallsOf_holds chosen kind d.retired
  unfold endCalls
  cases d.current with
  | none => exact hretired
  | some o => exact (works_holds (Consumers.endCallOf_works chosen kind _ o)).trans hretired

theorem Prompt.endCalls (h : d.Prompt) (chosen : Nat → Bool) (kind : ConsumerKind) :
    (d.endCalls chosen kind).Prompt ∧ (d.endCalls chosen kind).lost = d.lost := by
  have hturns := endCalls_turns chosen kind d
  refine ⟨⟨by rw [endCalls_holds, h.unheld], ?_⟩, turns_lost hturns⟩
  generalize d.endCalls chosen kind = d' at hturns ⊢
  induction hturns with
  | refl => exact h.free
  | tail _ hturn ih => exact hturn.free ih

theorem Prompt.setHold (h : d.Prompt) {kind : ConsumerKind} {on : Bool}
    (hdata : kind = .data → on = false) :
    ({ d with toConsumers := d.toConsumers.setHold kind on } : Delivery).Prompt := by
  refine ⟨?_, h.free⟩
  cases kind with
  | data => exact hdata rfl
  | button => exact h.unheld
  | error => exact h.unheld

theorem Prompt.waitingOf (h : d.Prompt) (k : Nat) : d.waitingOf k = [] := by
  cases ho : d.current with
  | none => exact waitingOf_eq_nil (by simp [ho])
  | some o => rw [waitingOf_of_current ho, (h.free o ho).items_eq_nil, ite_self]

/-- Nothing is thrown away with a stream for which nothing waits. -/
theorem Prompt.closeStream (h : d.Prompt) :
    d.closeStream.Prompt ∧ d.closeStream.lost = d.lost ∧ d.closeStream.late = d.late := by
  cases ho : d.current with
  | none =>
      simp only [Delivery.closeStream, ho]
      exact ⟨h, trivial, trivial⟩
  | some o =>
      rw [closeStream_eq ho]
      refine ⟨⟨h.unheld, by simp⟩, ?_, ?_⟩
      · exact (Consumers.note_lost _ _).trans (List.append_nil _)
      · refine (Consumers.note_late _ _).trans ?_
        rw [(h.free o ho).items_eq_nil]
        exact List.append_nil _

end Delivery

end QuadDaq

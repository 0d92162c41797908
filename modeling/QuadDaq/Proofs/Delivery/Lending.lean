import QuadDaq.Proofs.Delivery.Attendance
import QuadDaq.Proofs.Delivery.Loans

/-!
# Loans to workers

**A place and the calls of its consumers are those of a loan book** (`Change.booked`). A worker
that begins a call lends the consumer and gives it back when the call ends, also if the stream was
stopped meanwhile. Nothing else but registrations changes a place.

So workers are bound to what is true of loan books: no two are inside a call with the same
registration, and the consumer in its place is with none of them (`Lends.exclusive`).
-/

namespace QuadDaq

/-- The loan of a consumer of this kind that an outlet is inside a call with. -/
def Outlet.loan? (kind : EventKind) (o : Outlet) : Option (Loan String) :=
  o.eventCall.bind fun call => if call.kind = kind then some call.loan else none

theorem Outlet.loan?_of_none {kind : EventKind} {o : Outlet} (h : o.eventCall = none) :
    o.loan? kind = none := by
  rw [loan?, h, Option.bind_none]

theorem Outlet.loan?_of_some {kind : EventKind} {o : Outlet} {call : EventCall}
    (h : o.eventCall = some call) :
    o.loan? kind = if call.kind = kind then some call.loan else none := by
  rw [loan?, h, Option.bind_some]

theorem Outlet.loan?_of_not_busy {o : Outlet} (h : ¬o.isBusy) (kind : EventKind) :
    o.loan? kind = none := by
  rw [Bool.not_eq_true, isBusy, Bool.or_eq_false_iff] at h
  exact loan?_of_none (by simpa using h.2)

/-- A loan book comes to this place and these loans. -/
def Lends (place : Registration String) (loans : List (Loan String)) : Prop :=
  ∃ steps, (LoanBook.run {} steps).place = place ∧ (LoanBook.run {} steps).out.Perm loans

namespace Lends

variable {place : Registration String} {loans loans' : List (Loan String)}

theorem of_perm (h : Lends place loans) (hperm : loans.Perm loans') : Lends place loans' := by
  obtain ⟨steps, hplace, hout⟩ := h
  exact ⟨steps, hplace, hout.trans hperm⟩

theorem set (h : Lends place loans) (consumer : String) : Lends (place.set consumer) loans := by
  obtain ⟨steps, rfl, hout⟩ := h
  exact ⟨steps ++ [.set consumer], by rw [LoanBook.run_concat]; rfl,
    by rw [LoanBook.run_concat]; exact hout⟩

theorem lend (h : Lends place loans) {consumer : String} (hplace : place.current = some consumer) :
    Lends ⟨none, place.generation⟩ (⟨consumer, place.generation⟩ :: loans) := by
  obtain ⟨steps, rfl, hout⟩ := h
  refine ⟨steps ++ [.lend], ?_⟩
  rw [LoanBook.run_concat, LoanBook.step_lend hplace]
  exact ⟨rfl, (List.perm_append_singleton _ _).trans (hout.cons _)⟩

theorem giveBack {loan : Loan String} (h : Lends place (loan :: loans)) :
    Lends (place.giveBack loan) loans := by
  obtain ⟨steps, rfl, hout⟩ := h
  obtain ⟨position, hloan⟩ := List.mem_iff_getElem?.mp (hout.mem_iff.mpr List.mem_cons_self)
  refine ⟨steps ++ [.giveBack position], ?_⟩
  rw [LoanBook.run_concat, LoanBook.step_giveBack hloan]
  exact ⟨rfl, ((LoanBook.perm_of_getElem? hloan).trans hout).cons_inv⟩

/-- No two loans are of the same registration, and the consumer in its place is on none of them. -/
theorem exclusive (h : Lends place loans) :
    (loans.map Loan.generation).Nodup ∧
      (place.current.isSome → ∀ loan ∈ loans, loan.generation ≠ place.generation) := by
  obtain ⟨steps, rfl, hout⟩ := h
  have hkept := LoanBook.kept_run steps
  refine ⟨(hout.map _).nodup_iff.mp (List.nodup_append.mp hkept.once).2.1,
    fun hplace loan hloan => ?_⟩
  obtain ⟨consumer, hplace⟩ := Option.isSome_iff_exists.mp hplace
  rw [hkept.generation]
  exact hkept.not_lent_of_current hplace loan (hout.mem_iff.mpr hloan)

/-- A worker takes the consumer out for a call, or brings it back after one. -/
theorem work {c c' : Consumers} {o o' : Outlet} {rest : List Outlet} {kind : EventKind}
    (h : Lends (c.registration kind) ((o :: rest).filterMap (Outlet.loan? kind)))
    (hwork : Work (c, o) (c', o')) :
    Lends (c'.registration kind) ((o' :: rest).filterMap (Outlet.loan? kind)) := by
  rcases hwork.place_cases with ⟨kind', consumer, -, hfree, hplace, hplaces, ho'⟩ |
    ⟨call, hcall, ho', hplaces⟩ | ⟨hplaces, ho'⟩
  · rw [List.filterMap_cons_none (Outlet.loan?_of_none hfree)] at h
    rw [hplaces]
    split
    · next heq =>
        rw [List.filterMap_cons_some ((Outlet.loan?_of_some ho').trans (if_pos heq.symm)), heq]
        rw [heq] at h
        exact h.lend hplace
    · next hne =>
        rwa [List.filterMap_cons_none ((Outlet.loan?_of_some ho').trans (if_neg (Ne.symm hne)))]
  · rw [List.filterMap_cons_none (Outlet.loan?_of_none ho'), hplaces]
    split
    · next heq =>
        rw [List.filterMap_cons_some ((Outlet.loan?_of_some hcall).trans (if_pos heq.symm))] at h
        exact h.giveBack
    · next hne =>
        rwa [List.filterMap_cons_none ((Outlet.loan?_of_some hcall).trans (if_neg (Ne.symm hne)))]
          at h
  · have hsame : o'.loan? kind = o.loan? kind := congrArg (Option.bind · _) ho'
    rwa [hplaces, List.filterMap_cons, hsame, ← List.filterMap_cons]

end Lends

namespace Delivery

variable {d d' : Delivery} {n : Nat}

/-- The loans of consumers of this kind that workers are inside a call with. -/
def loans (d : Delivery) (kind : EventKind) : List (Loan String) :=
  d.outlets.filterMap (Outlet.loan? kind)

theorem loans_eq (d : Delivery) (kind : EventKind) :
    d.loans kind = (d.outlets.map Outlet.eventCall).filterMap fun call? =>
      call?.bind fun call => if call.kind = kind then some call.loan else none := by
  rw [List.filterMap_map]
  rfl

/-- The places and the calls are those of loan books, one for each kind of consumers. -/
def Booked (d : Delivery) : Prop := ∀ kind, Lends (d.registration kind) (d.loans kind)

theorem Turn.booked (h : Turn d d') (hd : d.Booked) : d'.Booked := by
  intro kind
  have hkind := hd kind
  cases h with
  | @worked o o' c' ho hwork =>
      have hold : d.outlets = o :: d.retired := by rw [outlets, ho]; rfl
      rw [loans, hold] at hkind
      exact hkind.work hwork
  | @workedRetired before after o o' c' hr hwork =>
      have hold : ∀ x, (d.current.toList ++ (before ++ x :: after)).Perm
          (x :: (d.current.toList ++ before ++ after)) := by
        intro x
        rw [← List.append_assoc]
        exact List.perm_middle
      rw [loans, outlets, hr] at hkind
      exact (hkind.of_perm ((hold o).filterMap _)).work hwork |>.of_perm ((hold o').filterMap _).symm
  | @letGo before after o hr hbusy =>
      have hnone : o.loan? kind = none := Outlet.loan?_of_not_busy (by simp [hbusy]) kind
      rw [loans, outlets, hr] at hkind
      simpa [loans, outlets, hnone] using hkind
  | registered kind' consumer =>
      rw [register, Consumers.register, Consumers.setRegistration_registration]
      split
      · next heq => exact heq ▸ hkind.set consumer
      · exact hkind
  | held kind' on => cases kind <;> exact hkind

/-- Whatever changes on the delivery side, the loan books go along. -/
theorem Change.booked (h : Change n d d') (hd : d.Booked) : d'.Booked := by
  intro kind
  have hkind := hd kind
  cases h with
  | turned hturn => exact hturn.booked hd kind
  | @received k signal _ =>
      rwa [(d.publish_places k signal).1, loans_eq, d.publish_eventCalls k signal, ← loans_eq]
  | opened hnone _ _ _ =>
      rw [loans, outlets, hnone] at hkind
      exact hkind
  | @closed o ho =>
      have hold : d.outlets = o :: d.retired := by rw [outlets, ho]; rfl
      rw [loans, hold] at hkind
      rw [closeStream_places, closeStream_eq ho]
      by_cases hbusy : o.isBusy
      · -- The outlet is retired, and its worker stays inside its call.
        have hclosed : (d.retired ++ [o.close.1]).filterMap (Outlet.loan? kind) =
            (d.retired ++ [o]).filterMap (Outlet.loan? kind) := by
          rw [List.filterMap_append, List.filterMap_append]
          rfl
        simp only [loans, outlets, if_pos hbusy, Option.toList_none, List.nil_append, hclosed]
        exact hkind.of_perm ((List.perm_append_singleton o d.retired).symm.filterMap _)
      · rw [List.filterMap_cons_none (Outlet.loan?_of_not_busy hbusy kind)] at hkind
        simpa only [loans, outlets, if_neg hbusy, Option.toList_none, List.nil_append] using hkind

end Delivery

end QuadDaq

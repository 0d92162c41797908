import Mathlib.Data.List.Induction
import Mathlib.Data.List.Nodup
import Mathlib.Data.List.Perm.Basic
import QuadDaq.Delivery.Loans

/-!
# Loans of registered consumers

**A consumer is on loan once at most, and an older one does not come back to the place**
(`lent_exclusively`), in whatever order workers take consumers out and bring them back and
however many are registered in between.

Registrations are told apart by their numbers, so that a consumer that is registered twice counts
as two. The number of each consumer that is in place or on loan is there once (`whereabouts`), and
that of the latest registration is among them: this is what a step keeps (`Kept.step`). A loan with
an older number finds the place taken over when it comes back.
-/

namespace QuadDaq

variable {γ : Type}

/-- The consumer that a step registers. -/
def LoanStep.registered? : LoanStep γ → Option γ
  | set consumer => some consumer
  | lend | giveBack _ => none

namespace LoanBook

/-- The consumers that steps register, in order. -/
def registered (steps : List (LoanStep γ)) : List γ := steps.filterMap LoanStep.registered?

/-- The consumer of the registration with this number. The first registration has number one. -/
def numbered (consumers : List γ) : Nat → Option γ
  | 0 => none
  | n + 1 => consumers[n]?

/-- The numbers of the registrations whose consumers are in place or on loan. -/
def whereabouts (b : LoanBook γ) : List Nat :=
  (b.place.current.map fun _ => b.place.generation).toList ++ b.out.map Loan.generation

/-- What is true of a place and its loans after these consumers were registered. -/
structure Kept (consumers : List γ) (b : LoanBook γ) : Prop where
  generation : b.place.generation = consumers.length
  latest : b.latest = consumers.getLast?
  current : ∀ consumer, b.place.current = some consumer → consumers.getLast? = some consumer
  loans : ∀ loan ∈ b.out, numbered consumers loan.generation = some loan.consumer
  once : b.whereabouts.Nodup
  present : consumers ≠ [] → consumers.length ∈ b.whereabouts

variable {b : LoanBook γ} {consumers : List γ}

/-! ### Numbers -/

theorem numbered_length (consumers : List γ) :
    numbered consumers consumers.length = consumers.getLast? := by
  rcases consumers.eq_nil_or_concat with rfl | ⟨before, last, rfl⟩
  · rfl
  · simp [numbered]

theorem numbered_append {n : Nat} {consumer : γ} (h : numbered consumers n = some consumer)
    (later : List γ) : numbered (consumers ++ later) n = some consumer := by
  cases n with
  | zero => cases h
  | succ n => exact (List.getElem?_append_left (List.getElem?_eq_some_iff.mp h).1).trans h

theorem le_length_of_numbered {n : Nat} {consumer : γ}
    (h : numbered consumers n = some consumer) : n ≤ consumers.length := by
  cases n with
  | zero => exact Nat.zero_le _
  | succ n => exact (List.getElem?_eq_some_iff.mp h).1

/-- Consumers that differ have one number each. -/
theorem numbered_inj (hdiffer : consumers.Nodup) {n n' : Nat} {consumer : γ}
    (h : numbered consumers n = some consumer) (h' : numbered consumers n' = some consumer) :
    n = n' := by
  cases n with
  | zero => cases h
  | succ n =>
      cases n' with
      | zero => cases h'
      | succ n' =>
          have hlt := (List.getElem?_eq_some_iff.mp h).1
          exact congrArg (· + 1) ((List.getElem?_inj hlt hdiffer).mp (h.trans h'.symm))

/-! ### Steps -/

theorem step_lend {consumer : γ} (hplace : b.place.current = some consumer) :
    b.step .lend = { b with
      place := ⟨none, b.place.generation⟩
      out := b.out ++ [⟨consumer, b.place.generation⟩] } := by
  simp [step, Registration.lend, hplace]

theorem step_giveBack {position : Nat} {loan : Loan γ} (hloan : b.out[position]? = some loan) :
    b.step (.giveBack position) =
      { b with place := b.place.giveBack loan, out := b.out.eraseIdx position } := by
  simp [step, hloan]

/-- A loan that is not of the latest registration leaves the place alone when it comes back. -/
theorem step_giveBack_of_ne {position : Nat} {loan : Loan γ} (hloan : b.out[position]? = some loan)
    (hnumber : loan.generation ≠ b.place.generation) :
    b.step (.giveBack position) = { b with out := b.out.eraseIdx position } := by
  rw [step_giveBack hloan, Registration.giveBack, if_neg hnumber.symm]

/-- A step registers a consumer, or takes the one in place out, or brings one back that goes to its
place or does not, or does nothing. -/
theorem step_cases (b : LoanBook γ) (s : LoanStep γ) :
    (∃ consumer, s = .set consumer ∧ b.step s =
      { b with place := ⟨some consumer, b.place.generation + 1⟩, latest := some consumer }) ∨
    s.registered? = none ∧
      ((∃ consumer, b.place.current = some consumer ∧ b.step s =
        { b with
          place := ⟨none, b.place.generation⟩
          out := b.out ++ [⟨consumer, b.place.generation⟩] }) ∨
      (∃ (position : Nat) (loan : Loan γ), b.out[position]? = some loan ∧
        loan.generation = b.place.generation ∧ b.step s =
        { b with
          place := ⟨some loan.consumer, b.place.generation⟩
          out := b.out.eraseIdx position }) ∨
      (∃ (position : Nat) (loan : Loan γ), b.out[position]? = some loan ∧
        loan.generation ≠ b.place.generation ∧
        b.step s = { b with out := b.out.eraseIdx position }) ∨
      b.step s = b) := by
  cases s with
  | set consumer => exact .inl ⟨consumer, rfl, rfl⟩
  | lend =>
      refine .inr ⟨rfl, ?_⟩
      cases hplace : b.place.current with
      | some consumer => exact .inl ⟨consumer, rfl, step_lend hplace⟩
      | none =>
          obtain ⟨⟨current, generation⟩, out, latest⟩ := b
          cases hplace
          exact .inr (.inr (.inr rfl))
  | giveBack position =>
      refine .inr ⟨rfl, .inr ?_⟩
      cases hloan : b.out[position]? with
      | none => exact .inr (.inr (by simp [step, hloan]))
      | some loan =>
          by_cases hnumber : loan.generation = b.place.generation
          · refine .inl ⟨position, loan, hloan, hnumber, ?_⟩
            rw [step_giveBack hloan, Registration.giveBack, if_pos hnumber.symm]
          · exact .inr (.inl ⟨position, loan, hloan, hnumber, step_giveBack_of_ne hloan hnumber⟩)

/-- A loan that comes back leaves the others out. -/
theorem perm_of_getElem? {out : List (Loan γ)} {position : Nat} {loan : Loan γ}
    (h : out[position]? = some loan) : (loan :: out.eraseIdx position).Perm out := by
  obtain ⟨hlt, rfl⟩ := List.getElem?_eq_some_iff.mp h
  exact List.getElem_cons_eraseIdx_perm hlt

namespace Kept

/-- A consumer that is registered takes the place over. -/
theorem set (h : Kept consumers b) (consumer : γ) :
    Kept (consumers ++ [consumer])
      { b with place := ⟨some consumer, b.place.generation + 1⟩, latest := some consumer } where
  generation := by simp [h.generation]
  latest := by simp
  current := by simp
  loans loan hloan := numbered_append (h.loans loan hloan) _
  once := by
    have hnew : ∀ loan ∈ b.out, loan.generation ≠ b.place.generation + 1 := fun loan hloan =>
      Nat.ne_of_lt (Nat.lt_succ_of_le (h.generation ▸ le_length_of_numbered (h.loans loan hloan)))
    exact List.nodup_cons.mpr ⟨by simpa using hnew, (List.nodup_append.mp h.once).2.1⟩
  present _ := by simp [whereabouts, h.generation]

/-- The consumer in place goes out. -/
theorem lent (h : Kept consumers b) {consumer : γ} (hplace : b.place.current = some consumer) :
    Kept consumers
      { b with
        place := ⟨none, b.place.generation⟩
        out := b.out ++ [⟨consumer, b.place.generation⟩] } := by
  have hperm : (b.out.map Loan.generation ++ [b.place.generation]).Perm b.whereabouts := by
    rw [whereabouts, hplace]
    exact List.perm_append_comm
  have hlatest : numbered consumers b.place.generation = some consumer := by
    rw [h.generation, numbered_length, h.current consumer hplace]
  constructor
  · exact h.generation
  · exact h.latest
  · exact nofun
  · exact List.forall_mem_append.mpr ⟨h.loans, List.forall_mem_singleton.mpr hlatest⟩
  · simpa [whereabouts] using hperm.nodup_iff.mpr h.once
  · intro hsome
    simpa [whereabouts] using hperm.mem_iff.mpr (h.present hsome)

/-- A consumer that comes back goes to its place if no other one was registered. -/
theorem returned (h : Kept consumers b) {position : Nat} {loan : Loan γ}
    (hloan : b.out[position]? = some loan) (hnumber : loan.generation = b.place.generation) :
    Kept consumers
      { b with
        place := ⟨some loan.consumer, b.place.generation⟩
        out := b.out.eraseIdx position } := by
  have hperm := (perm_of_getElem? hloan).map Loan.generation
  have hlatest : consumers.getLast? = some loan.consumer := by
    rw [← numbered_length, ← h.generation, ← hnumber]
    exact h.loans loan (List.mem_of_getElem? hloan)
  constructor
  · exact h.generation
  · exact h.latest
  · rintro _ ⟨⟩
    exact hlatest
  · exact fun other hother => h.loans other (List.mem_of_mem_eraseIdx hother)
  · rw [whereabouts, Option.map_some, Option.toList_some, ← hnumber]
    exact hperm.nodup_iff.mpr (List.nodup_append.mp h.once).2.1
  · exact fun _ => List.mem_cons.mpr (.inl h.generation.symm)

/-- A consumer that comes back after another one was registered is gone. -/
theorem discarded (h : Kept consumers b) {position : Nat} {loan : Loan γ}
    (hloan : b.out[position]? = some loan) (hnumber : loan.generation ≠ b.place.generation) :
    Kept consumers { b with out := b.out.eraseIdx position } := by
  constructor
  · exact h.generation
  · exact h.latest
  · exact h.current
  · exact fun other hother => h.loans other (List.mem_of_mem_eraseIdx hother)
  · exact h.once.sublist (((List.eraseIdx_sublist _ _).map _).append_left _)
  · intro hsome
    rcases List.mem_append.mp (h.present hsome) with hplace | hout
    · exact List.mem_append_left _ hplace
    · obtain ⟨other, hother, heq⟩ := List.mem_map.mp hout
      rcases List.mem_cons.mp ((perm_of_getElem? hloan).mem_iff.mpr hother) with rfl | hleft
      · exact absurd (heq.trans h.generation.symm) hnumber
      · exact List.mem_append_right _ (heq ▸ List.mem_map_of_mem hleft)

theorem step (h : Kept consumers b) (s : LoanStep γ) :
    Kept (consumers ++ s.registered?.toList) (b.step s) := by
  rcases b.step_cases s with ⟨consumer, rfl, hstep⟩ | ⟨hnone, hstep⟩
  · rw [hstep]
    exact h.set consumer
  · rw [hnone, Option.toList_none, List.append_nil]
    rcases hstep with ⟨consumer, hplace, hstep⟩ | ⟨position, loan, hloan, hnumber, hstep⟩ |
      ⟨position, loan, hloan, hnumber, hstep⟩ | hstep
    all_goals rw [hstep]
    · exact h.lent hplace
    · exact h.returned hloan hnumber
    · exact h.discarded hloan hnumber
    · exact h

end Kept

/-! ### Runs -/

theorem run_concat (b : LoanBook γ) (steps : List (LoanStep γ)) (s : LoanStep γ) :
    b.run (steps ++ [s]) = (b.run steps).step s := by
  rw [run, run, List.foldl_append]
  rfl

theorem registered_append (steps later : List (LoanStep γ)) :
    registered (steps ++ later) = registered steps ++ registered later :=
  List.filterMap_append

theorem kept_run (steps : List (LoanStep γ)) : Kept (registered steps) (run {} steps) := by
  induction steps using List.reverseRecOn with
  | nil => exact ⟨rfl, rfl, nofun, nofun, List.nodup_nil, fun h => absurd rfl h⟩
  | append_singleton steps s ih =>
      have hlast : registered [s] = s.registered?.toList := by
        cases s <;> rfl
      rw [run_concat, registered_append, hlast]
      exact ih.step s

/-- Once another consumer was registered, a loan is not of the latest registration any more. -/
theorem number_ne_of_set {before later : List (LoanStep γ)} {consumer : γ}
    (hset : .set consumer ∈ later) {loan : Loan γ} (hloan : loan ∈ (run {} before).out) :
    loan.generation ≠ (run {} (before ++ later)).place.generation := by
  have hle := le_length_of_numbered ((kept_run before).loans loan hloan)
  have hlater : 0 < (registered later).length :=
    List.length_pos_of_mem (List.mem_filterMap.mpr ⟨_, hset, rfl⟩)
  rw [(kept_run (before ++ later)).generation, registered_append, List.length_append]
  omega

namespace Kept

/-- The consumers in place and on loan, by their numbers. -/
theorem holders_eq (h : Kept consumers b) :
    b.place.current.toList ++ b.out.map Loan.consumer =
      b.whereabouts.filterMap (numbered consumers) := by
  have hplace : b.place.current.toList =
      (b.place.current.map fun _ => b.place.generation).toList.filterMap (numbered consumers) := by
    cases hcurrent : b.place.current with
    | none => rfl
    | some consumer => simp [h.generation, numbered_length, h.current consumer hcurrent]
  have hout : b.out.map Loan.consumer =
      (b.out.map Loan.generation).filterMap (numbered consumers) := by
    rw [List.filterMap_map, ← List.filterMap_eq_map]
    exact List.filterMap_congr fun loan hloan => (h.loans loan hloan).symm
  rw [whereabouts, List.filterMap_append, ← hplace, ← hout]

/-- A consumer that was registered once is in one place at most. -/
theorem holders_nodup (h : Kept consumers b) (hdiffer : consumers.Nodup) :
    (b.place.current.toList ++ b.out.map Loan.consumer).Nodup := by
  rw [h.holders_eq]
  exact h.once.filterMap fun n n' consumer hn hn' => numbered_inj hdiffer hn hn'

/-- The latest consumer is in place or on loan, and not both. -/
theorem current_eq (h : Kept consumers b)
    (hout : ∀ loan ∈ b.out, loan.generation ≠ consumers.length) :
    b.place.current = consumers.getLast? := by
  cases hplace : b.place.current with
  | some consumer => exact (h.current consumer hplace).symm
  | none =>
      have hempty : consumers = [] := by
        by_contra hsome
        have hmem := h.present hsome
        rw [whereabouts, hplace] at hmem
        obtain ⟨loan, hloan, heq⟩ := List.mem_map.mp hmem
        exact hout loan hloan heq
      rw [hempty, List.getLast?_nil]

theorem not_lent_of_current (h : Kept consumers b) {consumer : γ}
    (hplace : b.place.current = some consumer) :
    ∀ loan ∈ b.out, loan.generation ≠ consumers.length := by
  intro loan hloan heq
  have honce := h.once
  rw [whereabouts, hplace] at honce
  exact (List.nodup_cons.mp honce).1 (List.mem_map.mpr ⟨loan, hloan, heq.trans h.generation.symm⟩)

end Kept

/-- **A place lends its latest consumer, to one worker at a time.** Whatever happened to a place,
every loan is of a registered consumer and no two are of the same registration. The consumer in
place is the one that was registered last, and it is on no loan. A consumer that comes back when
another one has been registered since it went out is gone. The consumer that was registered last
is in place if it is not on loan. -/
theorem lent_exclusively (steps : List (LoanStep γ)) :
    let b : LoanBook γ := run {} steps
    let consumers := registered steps
    ((∀ loan ∈ b.out, numbered consumers loan.generation = some loan.consumer) ∧
      (b.out.map Loan.generation).Nodup ∧
      (consumers.Nodup → (b.place.current.toList ++ b.out.map Loan.consumer).Nodup)) ∧
    (∀ consumer, b.place.current = some consumer → consumers.getLast? = some consumer ∧
      ∀ loan ∈ b.out, loan.generation ≠ consumers.length) ∧
    (∀ before later, steps = before ++ later → (∃ consumer, .set consumer ∈ later) →
      ∀ (position : Nat) (loan : Loan γ), loan ∈ (run {} before).out →
        b.out[position]? = some loan →
        b.step (.giveBack position) = { b with out := b.out.eraseIdx position }) ∧
    ((∀ loan ∈ b.out, loan.generation ≠ consumers.length) →
      b.place.current = consumers.getLast?) := by
  intro b consumers
  have h : Kept consumers b := kept_run steps
  refine ⟨⟨h.loans, (List.nodup_append.mp h.once).2.1, h.holders_nodup⟩, fun consumer hplace =>
    ⟨h.current consumer hplace, h.not_lent_of_current hplace⟩, ?_, h.current_eq⟩
  rintro before later hsteps ⟨consumer, hset⟩ position loan hlent hloan
  refine step_giveBack_of_ne hloan ?_
  subst hsteps
  exact number_ne_of_set hset hlent

/-- A consumer that was replaced during its call does not come back. -/
example : run ({} : LoanBook String) [.set "old", .lend, .set "new", .giveBack 0, .lend] =
    ⟨⟨none, 2⟩, [⟨"new", 2⟩], some "new"⟩ := by
  decide

end LoanBook

end QuadDaq

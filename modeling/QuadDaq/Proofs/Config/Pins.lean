import QuadDaq.Config.Decode
import QuadDaq.Proofs.Config.Validation

/-!
# Pin assignments

**The pins of the bus of a valid configuration exist and differ, and nothing else is required of
pins** (`pins_checked`). They are checked last and one after the other, so a configuration is
refused for a pin exactly if nothing else is wrong with it, and then for the first pin that the
connector does not have or that stands before it already (`FirstFault`).

The pin of the button is in none of the checks. It may be one of the bus, and it may also be one
that does not exist (`button_unchecked`).
-/

namespace QuadDaq.Config

/-- The problem is one of the pins. -/
def Problem.concernsPins : Problem → Bool
  | pinOutOfRange _ | pinTwice _ => true
  | _ => false

/-- These pins exist, none of them is in use, and no two are the same. -/
structure Assignable (used pins : List Nat) : Prop where
  exist : ∀ pin ∈ pins, pin ≤ maxPin
  unused : ∀ pin ∈ pins, pin ∉ used
  differ : pins.Nodup

/-- What is wrong with a pin if these are in use. -/
inductive PinFault (used : List Nat) (pin : Nat) : Problem → Prop
  | outOfRange (h : maxPin < pin) : PinFault used pin (.pinOutOfRange pin)
  | twice (hrange : pin ≤ maxPin) (h : pin ∈ used) : PinFault used pin (.pinTwice pin)

/-- The first pin with a fault has this one, those before it being in use for it. -/
def FirstFault (used pins : List Nat) (p : Problem) : Prop :=
  ∃ before pin after, pins = before ++ pin :: after ∧
    Assignable used before ∧ PinFault (before ++ used) pin p

/-- The same configuration for a board with other pins. -/
def withPins (c : Config) (pins : Pins) : Config :=
  { c with hardware := { c.hardware with pins := pins } }

/-- The pins of a board that is wired in order. -/
def Pins.inOrder : Pins where
  data := .range 8
  clock := 8
  piOk := 9
  fail := 10
  reset := 11
  button := none

/-- What is wrong with a configuration besides its pins: the problem that it has for a board that
is wired in order. -/
def problemBesidesPins? (c : Config) : Option Problem := (c.withPins .inOrder).problem?

/-! ### Walking over pins -/

section

variable {used used' pins : List Nat} {pin : Nat} {p : Problem}

theorem assignable_nil : Assignable used [] := ⟨by simp, by simp, List.nodup_nil⟩

/-- A pin that is assigned is in use for the pins after it. -/
theorem assignable_cons :
    Assignable used (pin :: pins) ↔
      (pin ≤ maxPin ∧ pin ∉ used) ∧ Assignable (pin :: used) pins := by
  constructor
  · rintro ⟨hexist, hunused, hdiffer⟩
    rw [List.forall_mem_cons] at hexist hunused
    rw [List.nodup_cons] at hdiffer
    exact ⟨⟨hexist.1, hunused.1⟩, hexist.2, fun b hb => List.not_mem_cons_of_ne_of_not_mem
      (fun heq => hdiffer.1 (heq ▸ hb)) (hunused.2 b hb), hdiffer.2⟩
  · rintro ⟨⟨hrange, hnew⟩, hexist, hunused, hdiffer⟩
    have hrest : ∀ b ∈ pins, b ≠ pin ∧ b ∉ used := fun b hb =>
      List.ne_and_not_mem_of_not_mem_cons (hunused b hb)
    exact ⟨List.forall_mem_cons.mpr ⟨hrange, hexist⟩,
      List.forall_mem_cons.mpr ⟨hnew, fun b hb => (hrest b hb).2⟩,
      List.nodup_cons.mpr ⟨fun hmem => (hrest pin hmem).1 rfl, hdiffer⟩⟩

theorem PinFault.mono (h : PinFault used pin p) (hsub : used ⊆ used') : PinFault used' pin p := by
  cases h with
  | outOfRange h => exact .outOfRange h
  | twice hrange h => exact .twice hrange (hsub h)

theorem PinFault.concernsPins (h : PinFault used pin p) : p.concernsPins = true := by
  cases h <;> rfl

/-- The first pin has a fault itself, or it can be assigned and one after it has a fault. -/
theorem firstFault_cons :
    FirstFault used (pin :: pins) p ↔
      PinFault used pin p ∨ (pin ≤ maxPin ∧ pin ∉ used) ∧ FirstFault (pin :: used) pins p := by
  constructor
  · rintro ⟨before, faulty, after, heq, hbefore, hfault⟩
    cases before with
    | nil =>
        cases heq
        exact .inl hfault
    | cons b before =>
        cases heq
        obtain ⟨hfirst, hbefore⟩ := assignable_cons.mp hbefore
        exact .inr ⟨hfirst, before, faulty, after, rfl, hbefore,
          hfault.mono List.perm_middle.symm.subset⟩
  · rintro (hfault | ⟨hfirst, before, faulty, after, rfl, hbefore, hfault⟩)
    · exact ⟨[], pin, pins, rfl, assignable_nil, hfault⟩
    · exact ⟨pin :: before, faulty, after, rfl, assignable_cons.mpr ⟨hfirst, hbefore⟩,
        hfault.mono List.perm_middle.subset⟩

/-- Of a list of pins the first fault is reported. -/
theorem pinProblem?_eq_some_iff : pinProblem? used pins = some p ↔ FirstFault used pins p := by
  induction pins generalizing used with
  | nil => simp [pinProblem?, FirstFault]
  | cons pin rest ih =>
      rw [firstFault_cons, ← ih, pinProblem?]
      constructor
      · intro h
        split at h
        · next hrange =>
            cases h
            exact .inl (.outOfRange hrange)
        split at h
        · next hrange hused =>
            cases h
            exact .inl (.twice (Nat.le_of_not_lt hrange) hused)
        · next hrange hnew => exact .inr ⟨⟨Nat.le_of_not_lt hrange, hnew⟩, h⟩
      · rintro (⟨⟨hrange⟩ | ⟨hrange, hused⟩⟩ | ⟨⟨hrange, hnew⟩, h⟩)
        · rw [if_pos hrange]
        · rw [if_neg (Nat.not_lt.mpr hrange), if_pos hused]
        · rw [if_neg (Nat.not_lt.mpr hrange), if_neg hnew, h]

/-- A list of pins without a fault can be assigned. -/
theorem pinProblem?_eq_none_iff : pinProblem? used pins = none ↔ Assignable used pins := by
  induction pins generalizing used with
  | nil => exact iff_of_true rfl assignable_nil
  | cons pin rest ih =>
      rw [assignable_cons, ← ih, pinProblem?]
      split
      · next hrange => simp [Nat.not_le.mpr hrange]
      split
      · next hused => simp [hused]
      · next hrange hnew => rw [and_iff_right ⟨Nat.le_of_not_lt hrange, hnew⟩]

/-- There is a fault unless all pins exist and differ. -/
theorem exists_firstFault_iff :
    (∃ p, FirstFault [] pins p) ↔ (∃ pin ∈ pins, maxPin < pin) ∨ ¬pins.Nodup := by
  have hassignable : Assignable [] pins ↔ (∀ pin ∈ pins, pin ≤ maxPin) ∧ pins.Nodup :=
    ⟨fun h => ⟨h.exist, h.differ⟩, fun ⟨hexist, hdiffer⟩ => ⟨hexist, by simp, hdiffer⟩⟩
  calc (∃ p, FirstFault [] pins p)
    _ ↔ ∃ p, pinProblem? [] pins = some p := by simp only [pinProblem?_eq_some_iff]
    _ ↔ ¬Assignable [] pins := by rw [← Option.ne_none_iff_exists', ne_eq, pinProblem?_eq_none_iff]
    _ ↔ (∃ pin ∈ pins, maxPin < pin) ∨ ¬pins.Nodup := by
      rw [hassignable, Classical.not_and_iff_not_or_not]
      simp only [not_forall, Nat.not_le, exists_prop]

end

/-! ### Pins among the other checks -/

/-- A check that reports no problem of pins. -/
def Pinless (check : Option Problem) : Prop := ∀ p, check = some p → p.concernsPins = false

section

variable {α : Type} {checks : List (Option Problem)} {check : α → Option Problem} {holds : Bool}
  {p : Problem}

theorem pinless_require (hp : p.concernsPins = false) : Pinless (require holds p) := by
  intro q h
  cases holds with
  | false =>
      cases h
      exact hp
  | true => cases h

theorem pinless_bind (h : ∀ a, Pinless (check a)) (value : Option α) :
    Pinless (value.bind check) := by
  intro q hq
  obtain ⟨a, -, ha⟩ := Option.bind_eq_some_iff.mp hq
  exact h a q ha

theorem pinless_firstProblem (h : ∀ check ∈ checks, Pinless check) :
    Pinless (firstProblem checks) := by
  intro q hq
  obtain ⟨check, hmem, hcheck⟩ := List.exists_of_findSome?_eq_some hq
  exact h check hmem q hcheck

theorem pinless_rowProblem? {ok : Float → Bool} {problem : String → Problem}
    (h : ∀ part, (problem part).concernsPins = false) (part : String) (row : Row) :
    Pinless (rowProblem? ok problem part row) := by
  intro q hq
  obtain ⟨channel, -, rfl⟩ := Option.map_eq_some_iff.mp hq
  exact h _

end

theorem pinless_calibrationProblem? (part : String) (p : Settings.Preset) :
    Pinless (calibrationProblem? part p) := by
  apply pinless_firstProblem
  simp only [List.forall_mem_cons, List.not_mem_nil, false_imp_iff, implies_true, and_true]
  exact ⟨pinless_bind (fun _ => pinless_require rfl) _,
    pinless_bind (pinless_rowProblem? (fun _ => rfl) _) _,
    pinless_bind (pinless_rowProblem? (fun _ => rfl) _) _,
    pinless_bind (pinless_rowProblem? (fun _ => rfl) _) _⟩

theorem pinless_scriptProblem? (script : String) : Pinless (scriptProblem? script) := by
  intro q hq
  unfold scriptProblem? at hq
  split at hq <;> cases hq <;> rfl

/-- Only the check of the pins reports a problem of pins. -/
theorem pinless_problemBesidesPins? (c : Config) : Pinless c.problemBesidesPins? := by
  have hinOrder : Pinless (pinProblem? [] Pins.inOrder.bus) := by
    intro q hq
    cases hq
  apply pinless_firstProblem
  simp only [List.forall_mem_append, List.forall_mem_cons, List.forall_mem_map, List.not_mem_nil,
    false_imp_iff, implies_true, and_true]
  refine ⟨⟨⟨?acquisition, ?button, pinless_calibrationProblem? _ _⟩,
    fun profile _ => pinless_calibrationProblem? _ _⟩,
    pinless_bind pinless_scriptProblem? _, pinless_bind (fun _ => pinless_require rfl) _, ?hardware⟩
  all_goals apply pinless_firstProblem
  case hardware =>
    simp only [List.forall_mem_cons, List.not_mem_nil, false_imp_iff, implies_true, and_true]
    exact ⟨pinless_require rfl, hinOrder⟩
  all_goals simp +decide [pinless_require]

theorem firstProblem_append (checks more : List (Option Problem)) :
    firstProblem (checks ++ more) = (firstProblem checks).or (firstProblem more) :=
  List.findSome?_append

theorem firstProblem_cons (check : Option Problem) (checks : List (Option Problem)) :
    firstProblem (check :: checks) = check.or (firstProblem checks) := by
  cases check <;> rfl

/-- The pins are checked after everything else. -/
theorem problem?_withPins (c : Config) (pins : Pins) :
    (c.withPins pins).problem? = c.problemBesidesPins?.or (pinProblem? [] pins.bus) := by
  have hinOrder : pinProblem? [] Pins.inOrder.bus = none := rfl
  simp only [problemBesidesPins?, problem?, withPins, Hardware.problem?, firstProblem_append,
    firstProblem_cons, firstProblem_nil, hinOrder, Option.or_none, Option.or_assoc]

theorem problem?_eq_or (c : Config) :
    c.problem? = c.problemBesidesPins?.or (pinProblem? [] c.hardware.pins.bus) :=
  c.problem?_withPins c.hardware.pins

/-- A configuration is refused for its pins if nothing else is wrong with it. -/
theorem problem?_eq_some_iff_of_pins {c : Config} {p : Problem} (hp : p.concernsPins = true) :
    c.problem? = some p ↔
      c.problemBesidesPins? = none ∧ FirstFault [] c.hardware.pins.bus p := by
  have hbesides : c.problemBesidesPins? ≠ some p := fun h =>
    absurd (pinless_problemBesidesPins? c p h) (by simp [hp])
  rw [← pinProblem?_eq_some_iff, problem?_eq_or, Option.or_eq_some_iff]
  simp [hbesides]

/-- The pins of the bus of a valid configuration can be assigned. -/
theorem problem?_eq_none_iff_pins {c : Config} :
    c.problem? = none ↔ c.problemBesidesPins? = none ∧ Assignable [] c.hardware.pins.bus := by
  rw [← pinProblem?_eq_none_iff, problem?_eq_or, Option.or_eq_none_iff]

/-- **The pins of a bus are checked to the last one.** A configuration is refused for a pin exactly
if nothing else is wrong with it, and some pin of the bus does not exist or is there twice; the
first such pin is named. The twelve pins of the bus of a valid configuration exist and differ. The
pin of the button makes no difference. -/
theorem pins_checked (c : Config) :
    (∀ p, p.concernsPins = true →
      (c.problem? = some p ↔
        c.problemBesidesPins? = none ∧ FirstFault [] c.hardware.pins.bus p)) ∧
    ((∃ p, FirstFault [] c.hardware.pins.bus p) ↔
      (∃ pin ∈ c.hardware.pins.bus, 27 < pin) ∨ ¬c.hardware.pins.bus.Nodup) ∧
    (c.problem? = none → c.hardware.pins.bus.length = 12 ∧ c.hardware.pins.bus.Nodup ∧
      ∀ pin ∈ c.hardware.pins.bus, pin ≤ 27) ∧
    ∀ button, (c.withPins { c.hardware.pins with button := button }).problem? = c.problem? := by
  refine ⟨fun p hp => problem?_eq_some_iff_of_pins hp, exists_firstFault_iff, fun hvalid => ?_,
    fun button => ?_⟩
  · obtain ⟨-, hpins⟩ := problem?_eq_none_iff_pins.mp hvalid
    exact ⟨by simp [Pins.bus], hpins.differ, hpins.exist⟩
  · rw [problem?_withPins, problem?_eq_or]
    rfl

/-- A configuration for a board whose clock is wired to the first data line. -/
def clockOnData : Config where
  hardware := { pins := { Pins.inOrder with clock := 0 } }

theorem pins_checked_shared :
    clockOnData.problem? = some (.pinTwice 0) ∧
      FirstFault [] clockOnData.hardware.pins.bus (.pinTwice 0) := by
  have hproblem : clockOnData.problem? = some (.pinTwice 0) := by decide
  exact ⟨hproblem, (((pins_checked clockOnData).1 _ rfl).mp hproblem).2⟩

/-- A file that has the button on a pin beyond the last one. -/
def buttonBeyond : String := "[hardware.pins]\nbutton = 28\n"

/-- Not every pin of a valid configuration exists: that of the button may not. -/
theorem button_unchecked :
    ∃ c, parse? buttonBeyond = some c ∧ c.problem? = none ∧
      c.hardware.pins.button = some 28 ∧ ¬28 ≤ maxPin := by
  have hread : (parse? buttonBeyond).map (fun c => (c.problem?, c.hardware.pins.button)) =
      some (none, some 28) := by
    decide +kernel
  obtain ⟨c, hparse, hc⟩ := Option.map_eq_some_iff.mp hread
  obtain ⟨hvalid, hbutton⟩ := Prod.mk.inj hc
  exact ⟨c, hparse, hvalid, hbutton, by decide⟩

end QuadDaq.Config

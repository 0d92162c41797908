import QuadDaq.Config.Validate
import QuadDaq.Proofs.Settings.Presets

/-!
# What a valid configuration ensures

**The limits of a configuration are those of the driver, and some more.** A configuration is
valid if no check of any section finds a problem (`problem?_eq_none_iff`). Its calibrations are
then accepted by every store, because a section passes its checks exactly if a store takes it
over (`calibrationProblem?_eq_none_iff`), and its parameters exceed no limit of the driver
(`exceededLimit?_of_valid`).
-/

namespace QuadDaq.Config

open Settings (Preset)

/-! ### Checks in sequence -/

/-- There is no problem if no check has found one. -/
theorem firstProblem_eq_none_iff {checks : List (Option Problem)} :
    firstProblem checks = none ↔ ∀ check ∈ checks, check = none :=
  List.findSome?_eq_none_iff

theorem firstProblem_cons_eq_none_iff {check : Option Problem} {checks : List (Option Problem)} :
    firstProblem (check :: checks) = none ↔ check = none ∧ firstProblem checks = none := by
  simp only [firstProblem_eq_none_iff, List.forall_mem_cons]

@[simp] theorem firstProblem_nil : firstProblem [] = none := rfl

theorem require_eq_none_iff {holds : Bool} {p : Problem} :
    require holds p = none ↔ holds = true := by
  cases holds <;> simp [require]

/-- The sections of a valid configuration are valid. -/
theorem problem?_eq_none_iff {c : Config} :
    c.problem? = none ↔
      c.acquisition.problem? = none ∧ c.button.problem? = none ∧
      calibrationProblem? "calibration" c.calibration = none ∧
      (∀ p ∈ c.profiles, calibrationProblem? s!"profiles.{p.1}" p.2.preset = none) ∧
      c.startupScript.bind scriptProblem? = none ∧ c.logging.problem? = none ∧
      c.hardware.problem? = none := by
  have happend : ∀ checks more : List (Option Problem), firstProblem (checks ++ more) = none ↔
      firstProblem checks = none ∧ firstProblem more = none := by
    simp only [firstProblem_eq_none_iff, List.forall_mem_append, implies_true]
  have hprofiles : firstProblem (c.profiles.map fun p =>
      calibrationProblem? s!"profiles.{p.1}" p.2.preset) = none ↔
        ∀ p ∈ c.profiles, calibrationProblem? s!"profiles.{p.1}" p.2.preset = none := by
    rw [firstProblem_eq_none_iff, List.forall_mem_map]
  rw [problem?, happend, happend, hprofiles]
  simp only [firstProblem_cons_eq_none_iff, firstProblem_nil, and_true, and_assoc]

/-! ### Calibrations -/

theorem rowProblem?_eq_none_iff {ok : Float → Bool} {problem : String → Problem} {part : String}
    {row : Row} : rowProblem? ok problem part row = none ↔ row.firstFailing? ok = none := by
  simp [rowProblem?]

/-- A calibration passes the checks of a configuration if every field that it gives can be
used. -/
theorem calibrationProblem?_eq_none_iff {part : String} {p : Preset} :
    calibrationProblem? part p = none ↔ p.Usable := by
  simp only [calibrationProblem?, firstProblem_cons_eq_none_iff, firstProblem_nil, and_true,
    Option.bind_eq_none_iff, require_eq_none_iff, Bridge.isSome_ofInt?_iff, rowProblem?_eq_none_iff,
    Settings.PerChannel.firstFailing?_eq_none_iff, Settings.usableFactor_iff]
  exact ⟨fun ⟨hb, ho, hg, ht⟩ => ⟨hb, ho, hg, ht⟩,
    fun h => ⟨h.bridge, h.offsets, h.gains, h.transmissions⟩⟩

/-- Whatever calibration is selected from a valid configuration, it can be used. -/
theorem usable_of_selectCalibration {c : Config} (hvalid : c.problem? = none)
    {input : Option String} {p : Preset} (h : c.selectCalibration input = .ok p) : p.Usable := by
  obtain ⟨-, -, hcalibration, hprofiles, -⟩ := problem?_eq_none_iff.mp hvalid
  cases input with
  | none =>
      cases h
      exact calibrationProblem?_eq_none_iff.mp hcalibration
  | some name =>
      simp only [selectCalibration] at h
      split at h
      · next profile hfound =>
          cases h
          have hmem := List.mem_of_find?_eq_some hfound
          exact calibrationProblem?_eq_none_iff.mp (hprofiles _ hmem)
      · cases h

/-! ### Parameters -/

/-- The parameters of a valid configuration exceed no limit of the driver. -/
theorem exceededLimit?_of_valid {c : Config} (hvalid : c.problem? = none) :
    exceededLimit? c.acquisition.toConfig c.button.toConfig = none := by
  obtain ⟨hacquisition, hbutton, -⟩ := problem?_eq_none_iff.mp hvalid
  simp only [Acquisition.problem?, Button.problem?, firstProblem_cons_eq_none_iff,
    firstProblem_nil, and_true, require_eq_none_iff, Bool.and_eq_true, decide_eq_true_eq,
    ne_eq] at hacquisition hbutton
  obtain ⟨⟨hslow, hfast⟩, hrows, -, hcapacity, -, -, htimeout⟩ := hacquisition
  have hread : Duration.millis c.acquisition.readTimeoutMillis ≠ 0 :=
    Nat.mul_ne_zero htimeout (by decide)
  simp [exceededLimit?, Acquisition.toConfig, Button.toConfig, Nat.not_lt.mpr hslow,
    Nat.not_lt.mpr hfast, hrows, hcapacity, hread, hbutton]

end QuadDaq.Config

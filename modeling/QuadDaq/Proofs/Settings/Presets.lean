import QuadDaq.Proofs.Settings.Agreement
import QuadDaq.Proofs.Settings.Selection

/-!
# Presets

**A preset is taken over exactly if each field that it gives can be used**, in whatever state
the store is (`Store.applyPreset_eq_ok_iff`). No field belongs to the shape, so it does not
matter whether a stream runs. What is given replaces what the store had, and the rest stays
(`Snapshot.loaded`).
-/

namespace QuadDaq

theorem Bridge.isSome_ofInt?_iff {n : Int} : (ofInt? n).isSome = true ↔ n = 0 ∨ n = 1 := by
  simp only [Option.isSome_iff_exists, ofInt?_eq_some_iff]
  constructor
  · rintro ⟨b, rfl⟩
    cases b <;> simp [toInt]
  · rintro (rfl | rfl)
    exacts [⟨.off, rfl⟩, ⟨.on, rfl⟩]

namespace Settings

/-- Every field that the preset gives passes the check of its setting. -/
structure Preset.Usable (p : Preset) : Prop where
  bridge : ∀ n, p.bridge = some n → n = 0 ∨ n = 1
  offsets : ∀ row, p.offsets = some row → ∀ x ∈ row, x.isFinite = true
  gains : ∀ row, p.gains = some row → ∀ x ∈ row, x.isFinite = true ∧ (x == 0.0) = false
  transmissions : ∀ row, p.transmissions = some row →
    ∀ x ∈ row, x.isFinite = true ∧ (x == 0.0) = false

/-- The bridge that the preset selects. -/
def Preset.selection? (p : Preset) : Option Bridge := p.bridge.bind Bridge.ofInt?

/-- What a preset makes of a snapshot: fields that it gives replace those of the snapshot. -/
def Snapshot.loaded (s : Snapshot) (p : Preset) : Snapshot where
  bridge := p.selection?.getD s.bridge
  bridgeEpoch := advanceEpoch s.bridgeEpoch p.selection?
  offsets := p.offsets.getD s.offsets
  gains := p.gains.or s.gains
  transmissions := p.transmissions.or s.transmissions

/-! ### Fields -/

namespace Assignment

variable {a : Assignment} {row : Row}

theorem ofSelection_eq_ok_iff {n : Int} :
    ofSelection n = .ok a ↔ (n = 0 ∨ n = 1) ∧ bridge ((Bridge.ofInt? n).getD .off) = a := by
  rw [← Bridge.isSome_ofInt?_iff, ofSelection]
  cases Bridge.ofInt? n <;> simp

theorem checkOffsets_eq_ok_iff :
    checkOffsets row = .ok a ↔ (∀ x ∈ row, x.isFinite = true) ∧ offsets row = a := by
  rw [← PerChannel.firstFailing?_eq_none_iff, checkOffsets]
  cases row.firstFailing? Float.isFinite <;> simp

/-- A row of factors is usable if none of them is zero, infinite or not a number. -/
theorem firstFailing?_usableFactor_iff :
    row.firstFailing? usableFactor = none ↔
      ∀ x ∈ row, x.isFinite = true ∧ (x == 0.0) = false := by
  simp only [PerChannel.firstFailing?_eq_none_iff, usableFactor_iff]

theorem checkGains_eq_ok_iff :
    checkGains row = .ok a ↔
      (∀ x ∈ row, x.isFinite = true ∧ (x == 0.0) = false) ∧ gains row = a := by
  rw [← firstFailing?_usableFactor_iff, checkGains]
  cases row.firstFailing? usableFactor <;> simp

theorem checkTransmissions_eq_ok_iff :
    checkTransmissions row = .ok a ↔
      (∀ x ∈ row, x.isFinite = true ∧ (x == 0.0) = false) ∧ transmissions row = a := by
  rw [← firstFailing?_usableFactor_iff, checkTransmissions]
  cases row.firstFailing? usableFactor <;> simp

end Assignment

namespace Preset

/-- The assignments of the fields that are given. -/
def writes (p : Preset) : List Assignment :=
  (p.bridge.map fun n => .bridge ((Bridge.ofInt? n).getD .off)).toList
    ++ (p.offsets.map .offsets).toList
    ++ (p.gains.map .gains).toList
    ++ (p.transmissions.map .transmissions).toList

/-- A field is accepted if its value is, and stands for one assignment. -/
theorem field_eq_ok_iff {α : Type} {check : α → Except Refusal Assignment} {usable : α → Prop}
    {write : α → Assignment} (hcheck : ∀ {v a}, check v = .ok a ↔ usable v ∧ write v = a)
    {value : Option α} {batch : List Assignment} :
    field check value = .ok batch ↔
      (∀ v, value = some v → usable v) ∧ (value.map write).toList = batch := by
  cases value with
  | none => simp [field]
  | some v => simp [field, map_eq_ok, hcheck]

/-- A preset is accepted if all of its fields are. -/
theorem assignments_eq_ok_iff {p : Preset} {batch : List Assignment} :
    p.assignments = .ok batch ↔ p.Usable ∧ p.writes = batch := by
  simp only [assignments, bind_eq_ok, field_eq_ok_iff Assignment.ofSelection_eq_ok_iff,
    field_eq_ok_iff Assignment.checkOffsets_eq_ok_iff,
    field_eq_ok_iff Assignment.checkGains_eq_ok_iff,
    field_eq_ok_iff Assignment.checkTransmissions_eq_ok_iff, pure, Except.pure, Except.ok.injEq]
  constructor
  · rintro ⟨_, ⟨hbridge, rfl⟩, _, ⟨hoffsets, rfl⟩, _, ⟨hgains, rfl⟩, _, ⟨htransmissions, rfl⟩, rfl⟩
    exact ⟨⟨hbridge, hoffsets, hgains, htransmissions⟩, rfl⟩
  · rintro ⟨husable, rfl⟩
    exact ⟨_, ⟨husable.bridge, rfl⟩, _, ⟨husable.offsets, rfl⟩, _, ⟨husable.gains, rfl⟩, _,
      ⟨husable.transmissions, rfl⟩, rfl⟩

/-- What the fields write is what the preset makes of the snapshot. -/
theorem foldl_writes {p : Preset} (h : p.Usable) (s : Store) :
    p.writes.foldl Store.assign s = { s with snapshot := s.snapshot.loaded p } := by
  have hselection : p.bridge.map (fun n => (Bridge.ofInt? n).getD .off) = p.selection? := by
    cases hbridge : p.bridge with
    | none => simp [selection?, hbridge]
    | some n => rcases h.bridge n hbridge with rfl | rfl <;> simp [selection?, hbridge, Bridge.ofInt?]
  have hwrites : p.writes = (p.selection?.map Assignment.bridge).toList
      ++ (p.offsets.map .offsets).toList ++ (p.gains.map .gains).toList
      ++ (p.transmissions.map .transmissions).toList := by
    rw [writes, ← hselection, Option.map_map]
    rfl
  rw [hwrites, Snapshot.loaded]
  cases p.selection? <;> cases p.offsets <;> cases p.gains <;> cases p.transmissions <;> rfl

end Preset

/-- A preset is taken over if all its fields can be used, and changes the snapshot only. -/
theorem Store.applyPreset_eq_ok_iff {s s' : Store} {p : Preset} :
    s.applyPreset p = .ok s' ↔ p.Usable ∧ { s with snapshot := s.snapshot.loaded p } = s' := by
  rw [applyPreset, bind_eq_ok]
  constructor
  · rintro ⟨batch, hbatch, hcommit⟩
    obtain ⟨husable, rfl⟩ := Preset.assignments_eq_ok_iff.mp hbatch
    rw [← Preset.foldl_writes husable]
    exact ⟨husable, (commit_eq_ok_iff.mp hcommit).2⟩
  · rintro ⟨husable, rfl⟩
    have hbatch := Preset.assignments_eq_ok_iff.mpr ⟨husable, rfl⟩
    refine ⟨p.writes, hbatch, commit_eq_ok_iff.mpr ⟨fun _ => ?_, Preset.foldl_writes husable s⟩⟩
    exact Preset.shapeKey?_eq_none hbatch

theorem Store.applyPreset_isOk_iff {s : Store} {p : Preset} :
    (∃ s', s.applyPreset p = .ok s') ↔ p.Usable := by
  simp only [applyPreset_eq_ok_iff, exists_and_left, exists_eq', and_true]

/-! ### New stores -/

/-- A store has the calibration of a preset, and where the preset is silent that of a new
store. -/
structure Store.Holds (s : Store) (p : Preset) : Prop where
  bridge : s.snapshot.bridge.toInt = p.bridge.getD 0
  offsets : s.snapshot.offsets = p.offsets.getD (PerChannel.uniform 0.0)
  gains : s.snapshot.gains = p.gains
  transmissions : s.snapshot.transmissions = p.transmissions

theorem Store.holds_of_loaded {p : Preset} (h : p.Usable) {s : Store}
    (hs : s.snapshot = ({} : Snapshot).loaded p) : s.Holds p := by
  refine ⟨?_, by rw [hs]; rfl, by rw [hs]; exact Option.or_none, by rw [hs]; exact Option.or_none⟩
  rw [hs, Snapshot.loaded, Preset.selection?]
  cases hbridge : p.bridge with
  | none => rfl
  | some n => rcases h.bridge n hbridge with rfl | rfl <;> rfl

end Settings

end QuadDaq

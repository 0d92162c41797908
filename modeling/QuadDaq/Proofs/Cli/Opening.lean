import QuadDaq.Cli.Program
import QuadDaq.Proofs.Config.Tables
import QuadDaq.Proofs.Config.Validation

/-!
# Opening the driver of a configuration

**What a configuration may say and what a driver accepts are checked twice, and the checks
agree** (`Config.accepted_alike`). A valid configuration leads to a driver on any board: its
parameters exceed no limit, and the calibration that is resolved from it is made of sections
and tables that have been accepted, so the store takes it over as it is.
-/

namespace QuadDaq

open Settings (Preset Snapshot Store)

/-- What a driver on this board is built from under a configuration, with this calibration. -/
def Config.plan {β : Type} (c : Config) (board : β) (hasButton : Bool) (p : Preset) :
    DriverPlan β where
  board := some board
  hasButton := hasButton
  config := c.acquisition.toConfig
  button := c.button.toConfig
  calibration := some p

/-- The store of a new driver with this calibration. -/
def Config.store (c : Config) (p : Preset) : Store where
  snapshot := ({} : Snapshot).loaded p
  shape := c.acquisition.toConfig.shape

theorem Config.store_holds (c : Config) {p : Preset} (h : p.Usable) : (c.store p).Holds p :=
  Store.holds_of_loaded h rfl

/-- A driver with a usable calibration can be built from a valid configuration. -/
theorem Config.build_eq_ok {β : Type} {c : Config} (hvalid : c.problem? = none) {p : Preset}
    (hp : p.Usable) (board : β) (hasButton : Bool) :
    (c.plan board hasButton p).build =
      .ok { engine := (c.plan board hasButton p).engine board (c.store p) } := by
  have hlimit : exceededLimit? (c.plan board hasButton p).config
      (c.plan board hasButton p).button = none := exceededLimit?_of_valid hvalid
  have hstore : (c.plan board hasButton p).store = .ok (c.store p) :=
    Store.applyPreset_eq_ok_iff.mpr ⟨hp, rfl⟩
  have hboard : (c.plan board hasButton p).board = some board := rfl
  simp only [DriverPlan.build, hboard, hlimit, hstore]

/-! ### Tables over calibrations -/

namespace Cli

/-- The calibration under the values of a table, if there is one. -/
def underTable (p : Preset) : Option CalibrationTable → Preset
  | none => p
  | some t => overlay p t

/-- A usable calibration stays usable under an accepted table. -/
theorem usable_underTable {p : Preset} (hp : p.Usable) {table? : Option CalibrationTable}
    (htable : ∀ t, table? = some t → ∃ rows, CalibrationTable.ofRows rows = .ok t) :
    (underTable p table?).Usable := by
  cases table? with
  | none => exact hp
  | some t =>
      obtain ⟨rows, hrows⟩ := htable t rfl
      have ht := CalibrationTable.usable_of_ofRows hrows
      exact ⟨hp.bridge, ht.offsets, ht.gains, ht.transmissions⟩

/-- A calibration file holds the rows of an accepted table. -/
theorem ofRows_of_load {content : Option (List UInt8)} {t : CalibrationTable}
    (h : Csv.load content = .ok t) : ∃ rows, CalibrationTable.ofRows rows = .ok t := by
  unfold Csv.load at h
  split at h
  · cases h
  dsimp only at h
  split at h
  · cases h
  split at h
  · cases h
  obtain ⟨rows, -, h⟩ := Settings.bind_eq_ok.mp h
  split at h
  · next hrows =>
      cases h
      exact ⟨rows, hrows⟩
  · cases h

end Cli

/-! ### The two validations -/

/-- From a valid configuration, a calibration that is selected from it and a table that is
accepted, a driver can be built on any board; its store has the calibration under the table,
and is as new otherwise. And a calibration passes the checks of a configuration, as a section
or as a profile, exactly if every store takes it over. -/
theorem Config.accepted_alike (c : Config) :
    (c.problem? = none → ∀ (input : Option String) (selected : Preset)
      (table? : Option CalibrationTable), c.selectCalibration input = .ok selected →
      (∀ t, table? = some t → ∃ rows, CalibrationTable.ofRows rows = .ok t) →
      ∀ {β : Type} (board : β) (hasButton : Bool), ∃ d,
        (c.plan board hasButton (Cli.underTable selected table?)).build = .ok d ∧
        d.engine.store.Holds (Cli.underTable selected table?) ∧
        d.engine.store.shape = c.acquisition.toConfig.shape ∧ d.engine.phase = .stopped) ∧
    ∀ (part : String) (p : Preset) (s : Store),
      calibrationProblem? part p = none ↔ ∃ s', s.applyPreset p = .ok s' := by
  constructor
  · intro hvalid input selected table? hselected htable β board hasButton
    have husable : (Cli.underTable selected table?).Usable :=
      Cli.usable_underTable (usable_of_selectCalibration hvalid hselected) htable
    exact ⟨_, build_eq_ok hvalid husable board hasButton, c.store_holds husable, rfl, rfl⟩
  · intro part p s
    rw [calibrationProblem?_eq_none_iff, Store.applyPreset_isOk_iff]

/-- A configuration with an incomplete calibration, and a profile for a bridge that is on,
for a board whose data lines are wired the other way round. -/
def Config.profiled : Config where
  calibration := { gains := some (PerChannel.uniform 2.0) }
  profiles := [("strain", {
    bridge := Bridge.on.toInt
    offsets := PerChannel.uniform 0.0
    gains := PerChannel.uniform 4.0
    transmissions := PerChannel.uniform 0.5 })]
  hardware := { pins := { data := #v[16, 13, 12, 6, 5, 7, 25, 24] } }

/-- The rows of a table, in no order. -/
def CalibrationTable.shuffled : List CalibrationRow :=
  [⟨2, -0.0, 1.0, 2.0⟩, ⟨0, 1.5, 3.0, 1.0⟩, ⟨3, 0.0, -1.0, 0.25⟩, ⟨1, 32768.0, 0.5, 1.0⟩]

/-- The profile keeps its bridge under a table, and the rest of it gives way. -/
theorem Config.accepted_alike_profiled :
    profiled.problem? = none ∧ ∃ selected t d,
      profiled.selectCalibration (some "strain") = .ok selected ∧
      CalibrationTable.ofRows CalibrationTable.shuffled = .ok t ∧
      (profiled.plan () true (Cli.underTable selected (some t))).build = .ok d ∧
      d.engine.store.snapshot.bridge.toInt = 1 ∧
      d.engine.store.snapshot.gains = some #v[3.0, 0.5, 1.0, -1.0] := by
  have hvalid : profiled.problem? = none := by decide
  obtain ⟨t, htable, hgains⟩ : ∃ t, CalibrationTable.ofRows CalibrationTable.shuffled = .ok t ∧
      t.gains = #v[3.0, 0.5, 1.0, -1.0] := ⟨_, rfl, rfl⟩
  obtain ⟨selected, hselected, hbridge⟩ : ∃ selected,
      profiled.selectCalibration (some "strain") = .ok selected ∧ selected.bridge = some 1 :=
    ⟨_, rfl, rfl⟩
  obtain ⟨d, hbuild, hholds, -⟩ := (accepted_alike profiled).1 hvalid (some "strain") selected
    (some t) hselected (by rintro _ ⟨⟩; exact ⟨_, htable⟩) () true
  refine ⟨hvalid, selected, t, d, hselected, htable, hbuild, ?_, ?_⟩
  · rw [hholds.bridge]
    exact congrArg (·.getD 0) hbridge
  · rw [hholds.gains]
    exact congrArg some hgains

end QuadDaq

import QuadDaq.Proofs.Cli.Opening
import QuadDaq.Proofs.Settings.Literals

/-!
# Where the settings of a command come from

**Settings lie in layers.** The startup script lies over the calibration file, this over the
selected calibration, and that over a new store; each setting has the value of the highest
layer that gives one (`Layers.store`). A settings command is answered as this store answers its
document, and fails if a layer is invalid (`run_settings`).
-/

namespace QuadDaq

theorem Settings.Store.later_later (epoch epoch' : UInt64) (s : Store) :
    (s.later epoch').later epoch = s.later (epoch + epoch') := by
  simp only [later, Snapshot.later, UInt64.add_assoc]

/-- A store whose shape is not frozen takes over a document if its literals are valid. -/
theorem Settings.Store.apply_eq_of_unfrozen {s : Store} (hfrozen : s.frozen = false) {json : Json}
    {d : Document} (h : Document.ofJson json = .ok d) :
    s.apply json = d.assignments.map fun batch =>
      (batch.foldl assign s,
        d.answer (batch.foldl assign s).snapshot (batch.foldl assign s).shape) := by
  simp only [apply, h, bind, Except.bind]
  cases hbatch : d.assignments with
  | error refusal => rfl
  | ok batch =>
      have hcommit : s.commit batch = .ok (batch.foldl assign s) := by
        rw [commit, hfrozen]
        rfl
      simp only [hcommit]
      rfl

namespace Cli

open Settings (Document Preset Refusal Store)

/-- What the settings of a command come from, the highest layer first. -/
structure Layers where
  /-- The document of the startup script. -/
  script : Document
  /-- The calibration file. It has no bridge. -/
  table : Option CalibrationTable
  /-- The selected calibration. -/
  selected : Preset
  acquisition : Config.Acquisition

namespace Layers

/-- The literal of the script for a setting. -/
def literal? {γ : Type} (l : Layers) (key : Settings.Key) (read : Json → Option γ) : Option γ :=
  (l.script.literal? key).bind read

/-- The store that has each setting of the highest layer that gives it, and otherwise that of a
new store. -/
def store (l : Layers) : Store where
  snapshot :=
    { bridge := ((l.literal? .bridge Json.asBridge?).or l.selected.selection?).getD .off
      offsets := (((l.literal? .offset Json.asRow?).or (l.table.map (·.offsets))).or
        l.selected.offsets).getD (PerChannel.uniform 0.0)
      gains := ((l.literal? .gain Json.asRow?).or (l.table.map (·.gains))).or l.selected.gains
      transmissions := ((l.literal? .transmission Json.asRow?).or
        (l.table.map (·.transmissions))).or l.selected.transmissions }
  shape :=
    { sampleRate := (l.literal? .sampleRate (·.asNat? 32)).getD l.acquisition.sampleRate
      batchRows := (l.literal? .burstSize (·.asNat? 64)).getD l.acquisition.batchRows
      settlingTicks := l.acquisition.settlingTicks
      queueCapacity := l.acquisition.queueCapacity }

end Layers

/-- The document of a startup script. Without a script it is empty. -/
def scriptDocument? : Option String → Option Document
  | none => some []
  | some text => (Json.parse? text).bind fun json => (Document.ofJson json).toOption

/-- The calibration that an input selects: the profile of this name, or the calibration section
without a name. -/
def selected? (c : Config) : Option String → Option Preset
  | none => some c.calibration
  | some name => (c.profiles.lookup name).map Config.Profile.preset

/-- The layers under these options. There are none if the profile is unknown or the calibration
file is not accepted. -/
def layers? (s : Surroundings) (c : Config) (o : Options) : Option Layers := do
  let selected ← selected? c o.input
  let table ← o.calibration.mapM fun path => (loadTable s.files path).toOption
  let script ← scriptDocument? c.startupScript
  return { script, table, selected, acquisition := c.acquisition }

/-! ### Finding the layers -/

theorem problem?_of_loadConfig {files : Files} {path : String} {c : Config}
    (h : loadConfig files path = .ok c) : c.problem? = none := by
  unfold loadConfig at h
  split at h
  · cases h
  split at h
  · cases h
  split at h
  · cases h
  · next hvalid =>
      cases h
      exact hvalid

theorem lookup_eq_find? {γ : Type} (name : String) (entries : List (String × γ)) :
    entries.lookup name = (entries.find? fun e => e.1 = name).map Prod.snd := by
  induction entries with
  | nil => rfl
  | cons e rest ih =>
      by_cases h : e.1 = name
      · rw [List.find?_cons_of_pos (by simpa using h), ← h]
        exact List.lookup_cons_self
      · have hne : (name == e.1) = false := beq_eq_false_iff_ne.mpr (Ne.symm h)
        rw [List.find?_cons_of_neg (by simpa using h), List.lookup_cons, hne, ih]

theorem toOption_selectCalibration (c : Config) (input : Option String) :
    (c.selectCalibration input).toOption = selected? c input := by
  cases input with
  | none => rfl
  | some name =>
      rw [selected?, lookup_eq_find?, Config.selectCalibration]
      cases c.profiles.find? fun p => p.1 = name <;> rfl

/-- The script of a valid configuration is a document. -/
theorem exists_scriptDocument {c : Config} (hvalid : c.problem? = none) :
    ∃ d, scriptDocument? c.startupScript = some d := by
  obtain ⟨-, -, -, -, hscript, -⟩ := Config.problem?_eq_none_iff.mp hvalid
  cases htext : c.startupScript with
  | none => exact ⟨_, rfl⟩
  | some text =>
      rw [htext, Option.bind_some, Config.scriptProblem?] at hscript
      split at hscript
      · cases hscript
      · next entries hjson => exact ⟨_, by rw [scriptDocument?, hjson]; rfl⟩
      · cases hscript

theorem toOption_eq_some_iff {ε α : Type} {x : Except ε α} {a : α} :
    x.toOption = some a ↔ x = .ok a := by
  cases x <;> simp [Except.toOption]

/-- A calibration file is not accepted, or has the rows of an accepted table. -/
theorem loadTable_cases (files : Files) (path : String) :
    (∃ text, loadTable files path = .error (.ofText text)) ∨
    ∃ t rows, loadTable files path = .ok t ∧ CalibrationTable.ofRows rows = .ok t := by
  unfold loadTable
  dsimp only
  generalize hread : (_ >>= Csv.load : Except Csv.Problem CalibrationTable) = read
  cases read with
  | error p => exact .inl ⟨_, rfl⟩
  | ok t =>
      obtain ⟨content, -, hload⟩ := Settings.bind_eq_ok.mp hread
      obtain ⟨rows, hrows⟩ := ofRows_of_load hload
      exact .inr ⟨t, rows, rfl, hrows⟩

section Opening

variable {s : Surroundings} {c : Config} {o : Options} {l : Layers}

/-- There are layers if each of them is found. -/
theorem layers?_eq_some_iff :
    layers? s c o = some l ↔
      selected? c o.input = some l.selected ∧
      o.calibration.mapM (fun path => (loadTable s.files path).toOption) = some l.table ∧
      scriptDocument? c.startupScript = some l.script ∧ c.acquisition = l.acquisition := by
  obtain ⟨script, table, selected, acquisition⟩ := l
  simp only [layers?, Option.bind_eq_bind, Option.bind_eq_some_iff, Option.pure_def,
    Option.some.injEq, Layers.mk.injEq]
  constructor
  · rintro ⟨_, hselected, _, htable, _, hscript, rfl, rfl, rfl, rfl⟩
    exact ⟨hselected, htable, hscript, rfl⟩
  · rintro ⟨hselected, htable, hscript, rfl⟩
    exact ⟨_, hselected, _, htable, _, hscript, rfl, rfl, rfl, rfl⟩

/-- The calibration is resolved exactly if there are layers, and is made of two of them. -/
theorem resolveCalibration_cases (hvalid : c.problem? = none) :
    (∃ l, layers? s c o = some l ∧
      resolveCalibration s c o = .ok (underTable l.selected l.table)) ∨
    (layers? s c o = none ∧ ∃ text, resolveCalibration s c o = .error (.ofText text)) := by
  obtain ⟨script, hscript⟩ := exists_scriptDocument hvalid
  rw [layers?, ← toOption_selectCalibration, hscript, resolveCalibration]
  cases c.selectCalibration o.input with
  | error text => exact .inr ⟨rfl, text, rfl⟩
  | ok selected =>
      cases o.calibration with
      | none => exact .inl ⟨_, rfl, rfl⟩
      | some path =>
          obtain ⟨text, htable⟩ | ⟨t, rows, htable, -⟩ := loadTable_cases s.files path
          · refine .inr ⟨by simp [htable, Except.toOption], text, ?_⟩
            simp only [htable]
            rfl
          · refine .inl ⟨⟨script, some t, selected, c.acquisition⟩, ?_, ?_⟩
            · simp [htable, Except.toOption]
            · simp only [htable]
              rfl

/-! ### The store of the driver -/

/-- The failure of a settings document that is refused. -/
def Failure.ofRefusal (refusal : Refusal) : Failure := .ofDriver (.invalidArgument refusal.message)

/-- The calibration of the layers can be used. -/
theorem usable_of_layers (hvalid : c.problem? = none) (h : layers? s c o = some l) :
    (underTable l.selected l.table).Usable := by
  obtain ⟨hselected, htable, -⟩ := layers?_eq_some_iff.mp h
  rw [← toOption_selectCalibration, toOption_eq_some_iff] at hselected
  refine usable_underTable (Config.usable_of_selectCalibration hvalid hselected) fun t ht => ?_
  rw [ht] at htable
  cases hpath : o.calibration with
  | none =>
      rw [hpath] at htable
      cases htable
  | some path =>
      obtain ⟨text, hload⟩ | ⟨t', rows, hload, hrows⟩ := loadTable_cases s.files path <;>
        simp [hpath, hload, Except.toOption] at htable
      exact ⟨rows, htable ▸ hrows⟩

theorem exists_buildDriver (hvalid : c.problem? = none) (hbackend : c.hardware.backend = .sim)
    {p : Preset} (hp : p.Usable) :
    ∃ d, buildDriver s c p = .ok d ∧ d.engine.store = c.store p := by
  simp only [buildDriver, hbackend]
  exact ⟨_, congrArg (Except.mapError Failure.ofBuild)
    (Config.build_eq_ok hvalid hp (simulatedBoard s c) true), rfl⟩

/-- What a startup script makes of a driver whose shape is not frozen. -/
theorem applyScript_eq {d : SimDriver} (hfrozen : d.engine.store.frozen = false)
    {script : Option String} {document : Document} (h : scriptDocument? script = some document) :
    (∀ batch, document.assignments = .ok batch → ∃ d', applyScript d script = .ok d' ∧
      d'.engine.store = batch.foldl Store.assign d.engine.store) ∧
    ∀ refusal, document.assignments = .error refusal → applyScript d script =
      .error ((Failure.ofRefusal refusal).within "startup_script rejected") := by
  cases script with
  | none =>
      cases h
      refine ⟨fun batch hbatch => ?_, fun refusal hrefusal => ?_⟩
      · cases hbatch
        exact ⟨d, rfl, rfl⟩
      · cases hrefusal
  | some text =>
      obtain ⟨json, hjson, hdocument⟩ := Option.bind_eq_some_iff.mp h
      have happly := Store.apply_eq_of_unfrozen hfrozen (toOption_eq_some_iff.mp hdocument)
      refine ⟨fun batch hbatch => ?_, fun refusal hrefusal => ?_⟩
      · rw [hbatch] at happly
        let store := batch.foldl Store.assign d.engine.store
        refine ⟨{ d with engine := { d.engine with store := store } }, ?_, rfl⟩
        simp only [applyScript, hjson, applyDocument, Engine.apply, happly]
        rfl
      · rw [hrefusal] at happly
        simp only [applyScript, hjson, applyDocument, Engine.apply, happly]
        rfl

/-- A table covers all fields but the bridge. -/
theorem underTable_fields (p : Preset) (table : Option CalibrationTable) :
    (underTable p table).bridge = p.bridge ∧
    (underTable p table).offsets = (table.map (·.offsets)).or p.offsets ∧
    (underTable p table).gains = (table.map (·.gains)).or p.gains ∧
    (underTable p table).transmissions = (table.map (·.transmissions)).or p.transmissions := by
  cases table <;> simp [underTable, overlay, CalibrationTable.preset]

/-- The calibration under the table, under the literals of the script, is what the layers come
to, apart from the bridge epoch. -/
theorem Layers.under_script (hacquisition : c.acquisition = l.acquisition) :
    ∃ epoch, (c.store (underTable l.selected l.table)).under l.script = l.store.later epoch := by
  obtain ⟨script, table, selected, acquisition⟩ := l
  cases hacquisition
  refine ⟨Settings.advanceEpoch 0 selected.selection?, ?_⟩
  have hselection : (underTable selected table).selection? = selected.selection? := by
    cases table <;> rfl
  have hshape : ∀ rate? rows?, c.acquisition.toConfig.shape.written rate? rows? =
      ⟨rate?.getD c.acquisition.sampleRate, rows?.getD c.acquisition.batchRows,
        c.acquisition.settlingTicks, c.acquisition.queueCapacity⟩ := fun _ _ => rfl
  simp [Store.under, Config.store, Settings.Snapshot.loaded, Layers.store, Layers.literal?,
    Store.later, Settings.Snapshot.later, hselection, hshape, underTable_fields,
    Option.or_assoc]

theorem sorted_of_scriptDocument {script : Option String} {d : Document}
    (h : scriptDocument? script = some d) : d.Sorted := by
  cases script with
  | none =>
      cases h
      exact .nil
  | some text =>
      obtain ⟨json, -, hdocument⟩ := Option.bind_eq_some_iff.mp h
      exact Document.sorted_of_ofJson (toOption_eq_some_iff.mp hdocument)

/-- The driver of a valid configuration: there is none without layers or with a script that is
refused. Otherwise its store is that of the layers. -/
theorem openDriver_cases (hvalid : c.problem? = none) (hbackend : c.hardware.backend = .sim) :
    (layers? s c o = none ∧ ∃ text, openDriver s c o = .error (.ofText text)) ∨
    ∃ l, layers? s c o = some l ∧
      ((∃ refusal, l.script.assignments = .error refusal ∧ openDriver s c o =
        .error ((Failure.ofRefusal refusal).within "startup_script rejected")) ∨
      ∃ batch d epoch, l.script.assignments = .ok batch ∧ openDriver s c o = .ok d ∧
        d.engine.store = l.store.later epoch) := by
  obtain ⟨l, hl, hresolved⟩ | ⟨hnone, text, hunresolved⟩ :=
    resolveCalibration_cases (s := s) (o := o) hvalid
  · obtain ⟨d, hbuild, hstore⟩ :=
      exists_buildDriver (s := s) hvalid hbackend (usable_of_layers hvalid hl)
    obtain ⟨-, -, hscript, hacquisition⟩ := layers?_eq_some_iff.mp hl
    obtain ⟨htaken, hrefused⟩ := applyScript_eq (congrArg Store.frozen hstore) hscript
    have hopen : openDriver s c o = applyScript d c.startupScript := by
      simp only [openDriver, hresolved, hbuild, bind, Except.bind]
    refine .inr ⟨l, hl, ?_⟩
    cases hbatch : l.script.assignments with
    | error refusal => exact .inl ⟨refusal, rfl, hopen.trans (hrefused refusal hbatch)⟩
    | ok batch =>
        obtain ⟨d', hd', hstore'⟩ := htaken batch hbatch
        obtain ⟨epoch, hwritten⟩ :=
          Document.foldl_assign_eq (sorted_of_scriptDocument hscript) hbatch d.engine.store
        obtain ⟨epoch', hunder⟩ := Layers.under_script hacquisition
        refine .inr ⟨batch, d', epoch + epoch', rfl, hopen.trans hd', ?_⟩
        rw [hstore', hwritten, hstore, hunder, Store.later_later]
  · exact .inl ⟨hnone, text, by simp only [openDriver, hunresolved, bind, Except.bind]⟩

end Opening

/-! ### Settings commands -/

/-- How a settings command ends over these layers. -/
structure Layers.Settle (l : Layers) (json : Bool) (text : String) (report : Report) : Prop where
  /-- The document is applied to the store of the layers, and its answer is all that is printed. -/
  answered : ∀ batch document store answer, l.script.assignments = .ok batch →
    Json.parse? text = some document → l.store.apply document = .ok (store, answer) →
    report = ⟨[.out answer.toJson.render], .exit 0⟩
  /-- A document that this store refuses is not answered. -/
  refused : ∀ batch document refusal, l.script.assignments = .ok batch →
    Json.parse? text = some document → l.store.apply document = .error refusal →
    report = failed json (.ofRefusal refusal) ∧ report.ending = .exit 5
  /-- Nor is a text that is no document. -/
  unreadable : ∀ batch, l.script.assignments = .ok batch → Json.parse? text = none →
    report = failed json (.ofText "settings document is not valid JSON")
  /-- Nothing is answered after a script that has an invalid literal. -/
  scriptRefused : ∀ refusal, l.script.assignments = .error refusal →
    report = failed json ((Failure.ofRefusal refusal).within "startup_script rejected") ∧
      report.ending = .exit 5

theorem run_of_finished {s : Surroundings} {r : Request} {report : Report}
    (h : startRequest s r = .finished report) : run s r = report := by
  rw [run, h]

/-- A program that cannot log ends before its command, whichever that is. -/
theorem run_of_unlogged {s : Surroundings} {r : Request} {c : Config} {p : LogProblem}
    (hload : loadConfig s.files r.options.config = .ok c)
    (hlog : loggingProblem? s r.options c = some p) : run s r = logFailed r.options.json p := by
  refine run_of_finished ?_
  rw [startRequest, hload]
  dsimp only
  rw [hlog]

/-- A settings command fails if its driver cannot be opened. -/
theorem run_settings_eq {s : Surroundings} {r : Request} {text : String} {c : Config}
    (hcommand : r.command = .settings text) (hload : loadConfig s.files r.options.config = .ok c)
    (hlog : loggingProblem? s r.options c = none) :
    run s r = concluded r.options.json
      (openDriver s c r.options >>= fun d => runSettings d text) := by
  refine run_of_finished ?_
  rw [startRequest, hload]
  dsimp only
  rw [hlog]
  dsimp only
  generalize openDriver s c r.options = opened
  cases opened with
  | error f => rfl
  | ok d =>
      dsimp only
      rw [hcommand]
      rfl

section Settle

variable {l : Layers} {json : Bool} {text : String}

/-- A script that is refused ends the command. -/
theorem settle_scriptRefused {refusal : Refusal} (h : l.script.assignments = .error refusal) :
    l.Settle json text
      (failed json ((Failure.ofRefusal refusal).within "startup_script rejected")) where
  answered _ _ _ _ hbatch := nomatch h.symm.trans hbatch
  refused _ _ _ hbatch := nomatch h.symm.trans hbatch
  unreadable _ hbatch := nomatch h.symm.trans hbatch
  scriptRefused refusal' h' := by
    cases h.symm.trans h'
    exact ⟨rfl, rfl⟩

/-- A driver with the store of the layers answers a document as that store does. -/
theorem runSettings_later {d : SimDriver} {epoch : UInt64} {store : Store}
    (hstore : d.engine.store = store.later epoch) {document : Json}
    (hdocument : Json.parse? text = some document) :
    runSettings d text = match store.apply document with
      | .ok (_, answer) => .ok [.out answer.toJson.render]
      | .error refusal => .error (.ofRefusal refusal) := by
  simp only [runSettings, hdocument, applyDocument, Engine.apply, hstore, Store.apply_later]
  cases store.apply document <;> rfl

/-- The command on a driver whose store is that of the layers. -/
theorem settle_runSettings {batch : List Settings.Assignment} {d : SimDriver} {epoch : UInt64}
    (h : l.script.assignments = .ok batch) (hstore : d.engine.store = l.store.later epoch) :
    l.Settle json text (concluded json (runSettings d text)) where
  answered _ document store answer _ hdocument happly := by
    rw [runSettings_later hstore hdocument, happly]
    rfl
  refused _ document refusal _ hdocument happly := by
    rw [runSettings_later hstore hdocument, happly]
    exact ⟨rfl, rfl⟩
  unreadable _ _ hdocument := by
    rw [runSettings, hdocument]
    rfl
  scriptRefused _ h' := nomatch h.symm.trans h'

end Settle

/-- With a valid configuration for the simulated board, a settings command answers its document
as the store of the layers does. If a layer or the document is invalid, it fails and answers
nothing, and the exit code tells a script or a document that is refused from other problems. -/
theorem run_settings (s : Surroundings) (r : Request) (text : String) (c : Config)
    (hcommand : r.command = .settings text) (hload : loadConfig s.files r.options.config = .ok c)
    (hbackend : c.hardware.backend = .sim) :
    (loggingProblem? s r.options c = none →
      (∀ l, layers? s c r.options = some l → l.Settle r.options.json text (run s r)) ∧
      (layers? s c r.options = none →
        ∃ problem, run s r = failed r.options.json (.ofText problem))) ∧
    ∀ p, loggingProblem? s r.options c = some p → run s r = logFailed r.options.json p := by
  constructor
  · intro hlog
    rw [run_settings_eq hcommand hload hlog]
    obtain ⟨hnone, problem, hopen⟩ | ⟨l, hl, hopened⟩ :=
      openDriver_cases (s := s) (o := r.options) (problem?_of_loadConfig hload) hbackend
    · refine ⟨fun l hl => (nomatch hnone.symm.trans hl), fun _ => ⟨problem, ?_⟩⟩
      rw [hopen]
      rfl
    · refine ⟨fun l' hl' => ?_, fun hnone => (nomatch hnone.symm.trans hl)⟩
      cases hl.symm.trans hl'
      obtain ⟨refusal, hrefusal, hopen⟩ | ⟨batch, d, epoch, hbatch, hopen, hstore⟩ := hopened
      · rw [hopen]
        exact settle_scriptRefused hrefusal
      · have hsettings : (openDriver s c r.options >>= fun d => runSettings d text) =
            runSettings d text := congrArg (· >>= fun d => runSettings d text) hopen
        rw [hsettings]
        exact settle_runSettings hbatch hstore
  · exact fun p hlog => run_of_unlogged hload hlog

/-! ### A command with all layers -/

/-- A configuration with a script, a calibration section and a profile. -/
def layeredConfig : String :=
  "startup_script = '\x7b\"Bridge\": 1, \"SampleRate\": 500\x7d'\n"
    ++ "[calibration]\ngains = [9, 9, 9, 9]\n[profiles.strain]\nbridge = 0\n"
    ++ "offsets = [5, 5, 5, 5]\ngains = [4, 4, 4, 4]\ntransmissions = [2, 2, 2, 2]\n"

/-- A calibration file with other gains. -/
def layeredTable : String :=
  "channel,offset,gain,transmission\n0,0,3,1\n1,0,3,1\n2,0,3,1\n3,0,3,1\n"

def layeredFiles : Files := fun path =>
  if path = "rig.toml" then .ok layeredConfig.toUTF8.data.toList
  else if path = "rig.csv" then .ok layeredTable.toUTF8.data.toList
  else .error .notFound

def layeredDocument : String :=
  "\x7b\"Bridge\": \"?\", \"BurstSize\": 7, \"SampleRate\": \"?\"\x7d"

def layeredRequest : Request where
  options := { config := "rig.toml", calibration := some "rig.csv", input := some "strain" }
  command := .settings layeredDocument

/-- The bridge and the rate are those of the script, and the gains those of the file. -/
theorem run_settings_layered :
    ∃ c l, loadConfig layeredFiles "rig.toml" = .ok c ∧ c.hardware.backend = .sim ∧
      layers? { files := layeredFiles } c layeredRequest.options = some l ∧
      (l.store.snapshot.gains == some #v[3.0, 3.0, 3.0, 3.0]) = true ∧
      run { files := layeredFiles } layeredRequest =
        ⟨[.out "\x7b\"Bridge\":1,\"BurstSize\":7,\"SampleRate\":500\x7d"], .exit 0⟩ := by
  have hanswered : ((loadConfig layeredFiles "rig.toml").toOption.bind fun c =>
      (layers? { files := layeredFiles } c layeredRequest.options).bind fun l =>
      l.script.assignments.toOption.bind fun _ => (Json.parse? layeredDocument).bind fun document =>
      (l.store.apply document).toOption.map fun applied =>
        (applied.2.toJson.render, decide (c.hardware.backend = .sim),
          (loggingProblem? { files := layeredFiles } layeredRequest.options c).isNone,
          l.store.snapshot.gains == some #v[3.0, 3.0, 3.0, 3.0])) =
      some ("\x7b\"Bridge\":1,\"BurstSize\":7,\"SampleRate\":500\x7d", true, true, true) := by
    decide +kernel
  simp only [Option.bind_eq_some_iff, Option.map_eq_some_iff, toOption_eq_some_iff, Prod.mk.injEq,
    decide_eq_true_eq, Option.isNone_iff_eq_none] at hanswered
  obtain ⟨c, hload, l, hl, batch, hbatch, document, hdocument, ⟨store, answer⟩, happly, hrender,
    hbackend, hlog, hgains⟩ := hanswered
  refine ⟨c, l, hload, hbackend, hl, hgains, ?_⟩
  have hsettles := run_settings { files := layeredFiles } layeredRequest layeredDocument c rfl hload
    hbackend
  rw [← hrender]
  exact ((hsettles.1 hlog).1 l hl).answered batch document store answer hbatch hdocument happly

end Cli

end QuadDaq

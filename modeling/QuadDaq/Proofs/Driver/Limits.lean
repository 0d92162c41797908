import QuadDaq.Proofs.Driver.Shape
import QuadDaq.Proofs.Settings.Agreement

/-!
# The limits of the shape

**What the settings accept stays within their limits, what a driver is built with need not**
(`Shape.Within`). The tick rate of a driver is always one that its settings accept. So is the
number of rows per batch, unless it is the one that the driver was built with: a driver can be
built for batches that are larger than its settings accept. Such a size is reported and used, and
cannot be written back (`limits_of_build`).
-/

namespace QuadDaq

namespace Settings

/-! ### Writing back what is reported -/

/-- What is reported of a shape and can be written to it. -/
def Shape.reported (s : Shape) : List (String × Json) :=
  [("SampleRate", .int s.sampleRate), ("BurstSize", .int s.batchRows)]

/-- The command writes some of these entries and nothing else: a setter or a single write one of
them, and a document several. A document may also ask. -/
inductive Command.WritesOnly (entries : List (String × Json)) : Command → Prop
  | setter {v : TypedValue} {literal : Json} : v.WrittenAs literal →
      (v.key.name, literal) ∈ entries → WritesOnly entries v.setter
  | single {entry : String × Json} : entry ∈ entries → WritesOnly entries (.set entry.1 entry.2)
  | document {written : List (String × Json)} :
      (∀ e ∈ written, isQuery e.2 = false → e ∈ entries) →
      WritesOnly entries (.apply (.obj written))

/-- The command writes this number of rows per batch. -/
def Command.WritesRows (rows : Nat) (command : Command) : Prop :=
  command = .setBurstSize rows ∨ command.literal? .burstSize = some (.int rows)

/-- The literal is read as this number, if it is read as a number at all. -/
theorem eq_of_asNat?_int {bits n m : Nat} (h : (Json.int n).asNat? bits = some m) : m = n := by
  simp only [Json.asNat?, Option.ite_none_right_eq_some, Option.some.injEq, Int.toNat_natCast] at h
  exact h.2.symm

namespace Store

variable {s s' : Store}

/-- Entries that change nothing alone change nothing together. -/
theorem exists_takes_same {entries : List (String × Json)}
    (h : ∀ e ∈ entries, s.set e.1 e.2 = .ok s) :
    ∃ batch, List.Forall₂ s.Takes entries batch ∧ batch.foldl assign s = s := by
  induction entries with
  | nil => exact ⟨[], .nil, rfl⟩
  | cons e rest ih =>
      obtain ⟨he, hrest⟩ := List.forall_mem_cons.mp h
      obtain ⟨a, ha, hsame⟩ := set_eq_ok_iff.mp he
      obtain ⟨batch, hbatch, hfold⟩ := ih hrest
      refine ⟨a :: batch, .cons ha hbatch, ?_⟩
      rw [List.foldl_cons, hsame, hfold]

/-- A command that writes only what changes nothing changes nothing. -/
theorem run_same {entries : List (String × Json)} (h : ∀ e ∈ entries, s.set e.1 e.2 = .ok s)
    {command : Command} (hwrites : command.WritesOnly entries) : command.run s = .ok s := by
  cases hwrites with
  | setter hwritten hmem =>
      have hset := h _ hmem
      exact (Command.run_congr (TypedValue.assignments_set hwritten) s).symm.trans hset
  | single hmem => exact h _ hmem
  | @document written hwritten =>
      have hliterals : ∀ e ∈ (Document.ofEntries written).literals, s.set e.1 e.2 = .ok s := by
        intro e he
        obtain ⟨hmem, hquery⟩ := List.mem_filter.mp he
        refine h e (hwritten e (Document.mem_of_mem_ofEntries hmem) ?_)
        simpa using hquery
      obtain ⟨batch, htakes, hsame⟩ := exists_takes_same hliterals
      rw [Command.run, apply_eq_ok_iff.mpr ⟨batch, htakes, hsame, rfl⟩]
      rfl

variable (hwritable : s.frozen = false)
include hwritable

theorem set_same {entry : String × Json} {a : Assignment}
    (h : assignmentOf entry.1 entry.2 = .ok a) (hsame : s.assign a = s) :
    s.set entry.1 entry.2 = .ok s :=
  set_eq_ok_iff.mpr ⟨a, ⟨h, by simp [hwritable]⟩, hsame⟩

theorem rate_same (h : 1 ≤ s.shape.sampleRate ∧ s.shape.sampleRate ≤ maxSampleRate) :
    ∀ e ∈ [("SampleRate", Json.int s.shape.sampleRate)], s.set e.1 e.2 = .ok s := by
  intro e he
  cases List.mem_singleton.mp he
  have hread : (Json.int s.shape.sampleRate).asNat? 32 = some s.shape.sampleRate :=
    Json.asNat?_int (Nat.lt_of_le_of_lt h.2 (by decide))
  have hcheck := (assignmentOf_sampleRate hread).trans (if_pos h)
  exact set_same hwritable hcheck rfl

theorem reported_same (hrate : 1 ≤ s.shape.sampleRate ∧ s.shape.sampleRate ≤ maxSampleRate)
    (hrows : 1 ≤ s.shape.batchRows ∧ s.shape.batchRows ≤ maxBurstSize) :
    ∀ e ∈ s.shape.reported, s.set e.1 e.2 = .ok s := by
  intro e he
  rcases List.mem_cons.mp he with rfl | he
  · exact rate_same hwritable hrate _ (List.mem_singleton_self _)
  · cases List.mem_singleton.mp he
    have hread : (Json.int s.shape.batchRows).asNat? 64 = some s.shape.batchRows :=
      Json.asNat?_int (Nat.lt_of_le_of_lt hrows.2 (by decide))
    have hcheck := (assignmentOf_burstSize hread).trans (if_pos hrows)
    exact set_same hwritable hcheck rfl

end Store

/-- A command that writes this number of rows holds an assignment of it. -/
theorem Command.burstSize_mem {rows : Nat} {command : Command} {batch : List Assignment}
    (hbatch : command.assignments = .ok batch) (h : command.WritesRows rows) :
    .burstSize rows ∈ batch := by
  obtain ⟨a, ha, hkey⟩ : ∃ a ∈ batch, a.key = .burstSize := by
    rcases h with rfl | hliteral
    · obtain ⟨a, ha, rfl⟩ := map_eq_ok.mp hbatch
      exact ⟨a, List.mem_singleton_self a, (Assignment.checkBurstSize_inv ha).1⟩
    · exact exists_of_literal? hbatch (by rw [hliteral]; rfl)
  obtain ⟨n, hn⟩ : ∃ n, n ∈ (batch.filterMap Assignment.rows?).getLast? := by
    cases a with
    | burstSize m =>
        have hmem : m ∈ batch.filterMap Assignment.rows? := List.mem_filterMap.mpr ⟨_, ha, rfl⟩
        exact ⟨_, List.getLast?_eq_some_getLast (List.ne_nil_of_mem hmem)⟩
    | _ => cases hkey
  -- What the batch writes last is what the command says.
  have hsays : n = rows := by
    rw [(assignments_written hbatch).2] at hn
    rcases h with rfl | hliteral
    · exact (Option.some.inj hn).symm
    · have hread : (command.literal? .burstSize).bind (·.asNat? 64) = some n := by
        cases command <;> first | exact hn | cases hliteral
      rw [hliteral, Option.bind_some] at hread
      exact eq_of_asNat?_int hread
  obtain ⟨a', ha', hwrites⟩ := List.mem_filterMap.mp (List.mem_of_mem_getLast? hn)
  cases a' with
  | burstSize m =>
      cases hwrites
      exact hsays ▸ ha'
  | _ => cases hwrites

/-- No command writes more rows than the settings accept. -/
theorem Command.WritesRows.refused {rows : Nat} (hlarge : maxBurstSize < rows) {command : Command}
    (h : command.WritesRows rows) (s : Store) : ∃ refusal, command.run s = .error refusal := by
  cases hrun : command.run s with
  | error refusal => exact ⟨refusal, rfl⟩
  | ok s' =>
      obtain ⟨batch, hbatch, hchecked, -, -⟩ := run_inv hrun
      have hvalid := hchecked.valid _ (burstSize_mem hbatch h)
      exact absurd hvalid.2 (Nat.not_le.mpr hlarge)

/-! ### Shapes within their limits -/

/-- What holds of the shape of a driver that was built with this number of rows per batch. -/
structure Shape.Within (built : Nat) (s : Shape) : Prop where
  rate : 1 ≤ s.sampleRate ∧ s.sampleRate ≤ maxSampleRate
  rows : 1 ≤ s.batchRows
  /-- Only the number that it was built with may be beyond the limit of the settings. -/
  large : s.batchRows ≤ maxBurstSize ∨ s.batchRows = built

theorem Shape.Within.assign {built : Nat} {s : Store} {a : Assignment} (ha : a.Valid)
    (h : s.shape.Within built) : (s.assign a).shape.Within built := by
  cases a with
  | sampleRate hz => exact ⟨ha, h.rows, h.large⟩
  | burstSize rows => exact ⟨h.rate, ha.1, .inl ha.2⟩
  | bridge b => exact h
  | offsets row => exact h
  | gains row => exact h
  | transmissions row => exact h

end Settings

theorem Engine.Change.within {β : Type} {built : Nat} {e e' : Engine β} (h : Engine.Change e e')
    (hwithin : e.store.shape.Within built) : e'.store.shape.Within built := by
  cases h with
  | wrote hrun =>
      exact Settings.Command.run_preserves (P := fun s => s.shape.Within built)
        (fun _ _ ha h => h.assign ha) hrun hwithin
  | _ => exact hwithin

namespace Driver

variable {β : Type}

theorem within_of_build {plan : DriverPlan β} {new : Driver β} (hbuild : plan.build = .ok new) :
    new.engine.store.shape.Within plan.config.batchRows := by
  obtain ⟨board, store, hlimits, hstore, rfl⟩ := build_inv hbuild
  have hshape : store.shape = plan.config.shape := (store_of_plan hstore).1
  have hrate : 1 ≤ plan.config.sampleRate ∧ plan.config.sampleRate ≤ Settings.maxSampleRate := by
    unfold exceededLimit? at hlimits
    split at hlimits
    · cases hlimits
    · next hrate => simpa [Nat.one_le_iff_ne_zero] using hrate
  change store.shape.Within _
  rw [hshape]
  exact ⟨hrate, (exceededLimit?_eq_none hlimits).1, .inr rfl⟩

variable [Board β]

/-- What holds of the limits of a driver that was built from this plan. -/
structure KeepsLimits (plan : DriverPlan β) (d : Driver β) : Prop where
  within : d.engine.store.shape.Within plan.config.batchRows
  reports : d.engine.Reports d.engine.store.shape
  acquisition : d.engine.acquisition.sampleRate = d.engine.store.shape.sampleRate ∧
    d.engine.acquisition.batchRows = d.engine.store.shape.batchRows
  used : d.start.2 = .done → ∀ commands, d.KeepsShape (d.start.1.after commands)
  /-- Writing back the reported rate changes nothing. -/
  rate : d.engine.phase = .stopped → ∀ command : Settings.Command,
    command.WritesOnly [("SampleRate", .int d.engine.store.shape.sampleRate)] →
    d.configure command = (d, .done)
  /-- So does writing back all that is reported, if it can be written at all. -/
  shape : d.engine.phase = .stopped → d.engine.store.shape.batchRows ≤ Settings.maxBurstSize →
    ∀ command : Settings.Command, command.WritesOnly d.engine.store.shape.reported →
    d.configure command = (d, .done)
  refuses : Settings.maxBurstSize < d.engine.store.shape.batchRows →
    ∀ command : Settings.Command, command.WritesRows d.engine.store.shape.batchRows →
    ∃ reason, d.configure command = (d, .refused (.invalidArgument reason))

/-- The limits of the settings are those of the tick rate of every driver, whatever it was built
with and whatever was written. They are those of the rows per batch as well, unless the driver was
built with more rows and no other number was written. Then every way to write it back is refused. -/
theorem limits_of_build {plan : DriverPlan β} {new : Driver β} (hbuild : plan.build = .ok new)
    (commands : List (Command β)) : (new.after commands).KeepsLimits plan := by
  have hd := (sound_of_build hbuild).after commands
  have hfreezes := (shape_after commands (freezes_of_build hbuild)).1
  have hwithin : (new.after commands).engine.store.shape.Within plan.config.batchRows :=
    preserved_of_changes (P := fun e : Engine β => e.store.shape.Within plan.config.batchRows)
      (fun _ _ => Engine.Change.within) (changes_after (sound_of_build hbuild) commands)
      (within_of_build hbuild)
  generalize new.after commands = d at *
  have hwritable : d.engine.phase = .stopped → d.engine.store.frozen = false :=
    fun hstopped => Bool.eq_false_iff.mpr fun hfrozen => hfreezes.mp hfrozen hstopped
  refine ⟨hwithin, Engine.reports _, ⟨rfl, rfl⟩, keepsShape hd, ?_, ?_, ?_⟩
  · intro hstopped command hwrites
    have hsame := Settings.Store.rate_same (hwritable hstopped) hwithin.rate
    exact configure_of_ok (Settings.Store.run_same hsame hwrites)
  · intro hstopped hrows command hwrites
    have hsame := Settings.Store.reported_same (hwritable hstopped) hwithin.rate
      ⟨hwithin.rows, hrows⟩
    exact configure_of_ok (Settings.Store.run_same hsame hwrites)
  · intro hlarge command hwrites
    obtain ⟨refusal, hrefusal⟩ := hwrites.refused hlarge d.engine.store
    exact ⟨_, configure_of_error hrefusal⟩

/-- After another rate was written, both settings can be written back in one document. -/
theorem limits_of_build_scripted :
    scripted.build = .ok scriptedDriver ∧
      (scriptedDriver.after [.configure (.setSampleRate 500)]).engine.store.shape.reported =
        [("SampleRate", .int 500), ("BurstSize", .int 2)] ∧
      (scriptedDriver.after [.configure (.setSampleRate 500)]).configure
          (.apply (.obj [("SampleRate", .int 500), ("BurstSize", .int 2)])) =
        (scriptedDriver.after [.configure (.setSampleRate 500)], .done) := by
  have hlimits := limits_of_build scripted_build [.configure (.setSampleRate 500)]
  exact ⟨scripted_build, rfl, hlimits.shape rfl (by decide) _ (.document fun e he _ => he)⟩

/-- A driver for batches that are larger than the settings accept. -/
def oversized : DriverPlan Board.Scripted := { scripted with config := { batchRows := 1000001 } }

/-- It is built and reports the size of its batches. The setter refuses this size. -/
theorem oversized_refused :
    ∃ d, oversized.build = .ok d ∧ d.engine.phase = .stopped ∧
      d.engine.get (.obj [("BurstSize", .str "?")]) = .ok [("BurstSize", .int 1000001)] ∧
      d.configure (.setBurstSize 1000001) = (d, .refused (.invalidArgument
        "BurstSize must be in [1, 1000000], got 1000001")) :=
  ⟨_, rfl, rfl, rfl, rfl⟩

end Driver

end QuadDaq

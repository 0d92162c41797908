import QuadDaq.Proofs.Settings.Apply
import QuadDaq.Proofs.Settings.Invariants

/-!
# All ways of writing a setting agree

**It does not matter how a value reaches the store.** A typed setter, the setting by name, a
document with one entry and a preset with one field ask for the same assignments or fail the
same check, and what a store makes of a command depends on nothing else (`Command.run_eq`). So
the four agree on every store, in the result and in the refusal.

A preset and the document of its fields visit them in different orders: the preset checks the
offsets before the gains, the document the other way round. They are refused alike because
finite offsets are never refused, and carry out the same because assignments of different
settings commute.
-/

namespace QuadDaq.Settings

/-! ### Values and their literals -/

/-- A value of the type that a setter takes. -/
inductive TypedValue
  | bridge (selection : Int64)
  | offsets (row : Row)
  | gains (row : Row)
  | transmissions (row : Row)
  | sampleRate (hz : UInt32)
  | burstSize (rows : UInt64)

/-- The literal is a 64-bit number, and that of the selection. -/
def WritesSelection (literal : Json) (selection : Int) : Prop :=
  ∃ n : Int64, literal = .int n.toInt ∧ n.toInt = selection

/-- The literal is an array of numbers, whole or not, that read as the values of the row. -/
def WritesRow (literal : Json) (row : Row) : Prop :=
  ∃ items, literal = .arr items ∧ items.mapM Json.asFloat? = some row.toList

namespace TypedValue

/-- The setting that the value is for. -/
def key : TypedValue → Key
  | bridge _ => .bridge
  | offsets _ => .offset
  | gains _ => .gain
  | transmissions _ => .transmission
  | sampleRate _ => .sampleRate
  | burstSize _ => .burstSize

/-- The literal stands for the value in a document. -/
def WrittenAs (literal : Json) : TypedValue → Prop
  | bridge selection => WritesSelection literal selection.toInt
  | offsets row | gains row | transmissions row => WritesRow literal row
  | sampleRate hz => literal = .int hz.toNat
  | burstSize rows => literal = .int rows.toNat

/-- The call of the typed setter with the value. -/
def setter : TypedValue → Command
  | bridge selection => .setBridge selection.toInt
  | offsets row => .setOffsets row
  | gains row => .setGains row
  | transmissions row => .setTransmissions row
  | sampleRate hz => .setSampleRate hz.toNat
  | burstSize rows => .setBurstSize rows.toNat

/-- The preset that holds nothing but the value, if presets have a field for it. -/
def preset? : TypedValue → Option Preset
  | bridge selection => some { bridge := some selection.toInt }
  | offsets row => some { offsets := some row }
  | gains row => some { gains := some row }
  | transmissions row => some { transmissions := some row }
  | sampleRate _ | burstSize _ => none

/-- The check that the value has to pass. -/
def check : TypedValue → Except Refusal Assignment
  | bridge selection => Assignment.ofSelection selection.toInt
  | offsets row => Assignment.checkOffsets row
  | gains row => Assignment.checkGains row
  | transmissions row => Assignment.checkTransmissions row
  | sampleRate hz => Assignment.checkSampleRate hz.toNat
  | burstSize rows => Assignment.checkBurstSize rows.toNat

end TypedValue

/-- The settings that presets have a field for, in the order of their names. -/
def Preset.keys : List Key := [.bridge, .gain, .offset, .transmission]

/-- The entries of a document bind the fields of a preset to literals, and nothing else. As in
every document the last entry of a name counts. -/
structure Preset.WrittenAs (entries : List (String × Json)) (p : Preset) : Prop where
  bridge : Option.Rel WritesSelection (entries.reverse.lookup Key.bridge.name) p.bridge
  offsets : Option.Rel WritesRow (entries.reverse.lookup Key.offset.name) p.offsets
  gains : Option.Rel WritesRow (entries.reverse.lookup Key.gain.name) p.gains
  transmissions : Option.Rel WritesRow (entries.reverse.lookup Key.transmission.name) p.transmissions
  names : ∀ entry ∈ entries, ∃ key ∈ keys, key.name = entry.1

/-! ### Literals are read back -/

section Literals

variable {literal : Json} {selection : Int} {row : Row}

theorem length_of_mapM_eq_some {α γ : Type} {f : α → Option γ} {l : List α} {out : List γ}
    (h : l.mapM f = some out) : out.length = l.length := by
  induction l generalizing out with
  | nil =>
      cases h
      rfl
  | cons a l ih =>
      simp only [List.mapM_cons, Option.bind_eq_bind, Option.bind_eq_some_iff, Option.pure_def,
        Option.some.injEq] at h
      obtain ⟨c, -, rest, hrest, rfl⟩ := h
      rw [List.length_cons, List.length_cons, ih hrest]

theorem WritesRow.channelValues (h : WritesRow literal row) (key : Key) :
    channelValues key literal = .ok row := by
  obtain ⟨items, rfl, hitems⟩ := h
  have hlength : items.length = 4 := by
    rw [← length_of_mapM_eq_some hitems, Vector.length_toList]
  simp only [Settings.channelValues, hlength, ne_eq, not_true_eq_false, if_false, hitems,
    Option.bind_some, PerChannel.ofList?_toList]

theorem WritesSelection.asInt64? (h : WritesSelection literal selection) :
    literal.asInt64? = some selection := by
  obtain ⟨n, rfl, rfl⟩ := h
  exact if_pos ⟨n.le_toInt, n.toInt_lt⟩

theorem Json.asNat?_int {bits n : Nat} (h : n < 2 ^ bits) :
    (Json.int n).asNat? bits = some n := by
  have hbound : (n : Int) < Int.pow 2 bits := by
    have : ((2 ^ bits : Nat) : Int) = Int.pow 2 bits := by push_cast; rfl
    omega
  rw [Json.asNat?, if_pos ⟨Int.natCast_nonneg n, hbound⟩, Int.toNat_natCast]

/-! What a literal is read as in the place of each setting. -/

theorem assignmentOf_name (key : Key) (literal : Json) :
    assignmentOf key.name literal = key.assignment literal := by
  rw [assignmentOf, Key.ofName?_name]

theorem WritesSelection.assignmentOf (h : WritesSelection literal selection) :
    assignmentOf Key.bridge.name literal = Assignment.ofSelection selection := by
  simp only [assignmentOf_name, Key.assignment, h.asInt64?]

theorem WritesRow.assignmentOf_offset (h : WritesRow literal row) :
    assignmentOf Key.offset.name literal = Assignment.checkOffsets row := by
  simp only [assignmentOf_name, Key.assignment, h.channelValues]
  rfl

theorem WritesRow.assignmentOf_gain (h : WritesRow literal row) :
    assignmentOf Key.gain.name literal = Assignment.checkGains row := by
  simp only [assignmentOf_name, Key.assignment, h.channelValues]
  rfl

theorem WritesRow.assignmentOf_transmission (h : WritesRow literal row) :
    assignmentOf Key.transmission.name literal = Assignment.checkTransmissions row := by
  simp only [assignmentOf_name, Key.assignment, h.channelValues]
  rfl

-- The literal stays a variable here: unfolding the bound at a cast would count down from it.
theorem assignmentOf_sampleRate {hz : Nat} (h : literal.asNat? 32 = some hz) :
    assignmentOf Key.sampleRate.name literal = Assignment.checkSampleRate hz := by
  simp only [assignmentOf_name, Key.assignment, h]

theorem assignmentOf_burstSize {rows : Nat} (h : literal.asNat? 64 = some rows) :
    assignmentOf Key.burstSize.name literal = Assignment.checkBurstSize rows := by
  simp only [assignmentOf_name, Key.assignment, h]

/-- A literal has to pass the check of the value that it stands for. -/
theorem TypedValue.assignmentOf_eq {v : TypedValue} (h : v.WrittenAs literal) :
    assignmentOf v.key.name literal = v.check := by
  cases v with
  | bridge selection => exact h.assignmentOf
  | offsets row => exact h.assignmentOf_offset
  | gains row => exact h.assignmentOf_gain
  | transmissions row => exact h.assignmentOf_transmission
  | sampleRate hz =>
      cases h
      exact assignmentOf_sampleRate (Json.asNat?_int hz.toNat_lt)
  | burstSize rows =>
      cases h
      exact assignmentOf_burstSize (Json.asNat?_int rows.toNat_lt)

theorem WritesRow.isQuery (h : WritesRow literal row) : isQuery literal = false := by
  obtain ⟨items, rfl, -⟩ := h
  rfl

theorem WritesSelection.isQuery (h : WritesSelection literal selection) :
    isQuery literal = false := by
  obtain ⟨n, rfl, -⟩ := h
  rfl

theorem TypedValue.isQuery_of_writtenAs {v : TypedValue} (h : v.WrittenAs literal) :
    isQuery literal = false := by
  cases v with
  | bridge selection => exact WritesSelection.isQuery h
  | offsets row => exact WritesRow.isQuery h
  | gains row => exact WritesRow.isQuery h
  | transmissions row => exact WritesRow.isQuery h
  | sampleRate hz =>
      cases h
      rfl
  | burstSize rows =>
      cases h
      rfl

theorem mapM_asFloat?_float (values : List Float) :
    (values.map Json.float).mapM Json.asFloat? = some values := by
  induction values with
  | nil => rfl
  | cons x values ih => rw [List.map_cons, List.mapM_cons, ih]; rfl

/-- Every value can be written. -/
theorem TypedValue.exists_writtenAs (v : TypedValue) : ∃ literal, v.WrittenAs literal := by
  have hrow : ∀ row : Row, ∃ literal, WritesRow literal row :=
    fun row => ⟨_, _, rfl, mapM_asFloat?_float row.toList⟩
  cases v with
  | bridge selection => exact ⟨_, selection, rfl, rfl⟩
  | offsets row => exact hrow row
  | gains row => exact hrow row
  | transmissions row => exact hrow row
  | sampleRate hz => exact ⟨_, rfl⟩
  | burstSize rows => exact ⟨_, rfl⟩

end Literals

/-! ### One value -/

/-- Commands that ask for the same assignments do the same to every store. -/
theorem Command.run_congr {c c' : Command} (h : c.assignments = c'.assignments) (s : Store) :
    c.run s = c'.run s := by
  rw [run_eq, run_eq, h]

theorem Document.assignments_singleton {name : String} {literal : Json}
    (h : isQuery literal = false) :
    (ofEntries [(name, literal)]).assignments =
      (assignmentOf name literal).map fun a => [a] := by
  have hliterals : (ofEntries [(name, literal)]).literals = [(name, literal)] := by
    simp [literals, ofEntries, insert, h]
  change (ofEntries [(name, literal)]).literals.mapM _ = _
  rw [hliterals, List.mapM_cons]
  cases assignmentOf name literal <;> rfl

namespace TypedValue

variable {v : TypedValue} {literal : Json}

theorem assignments_setter (v : TypedValue) :
    v.setter.assignments = v.check.map fun a => [a] := by
  cases v <;> rfl

theorem assignments_set (h : v.WrittenAs literal) :
    (Command.set v.key.name literal).assignments = v.setter.assignments := by
  rw [assignments_setter, ← assignmentOf_eq h]
  rfl

theorem assignments_apply (h : v.WrittenAs literal) :
    (Command.apply (.obj [(v.key.name, literal)])).assignments = v.setter.assignments := by
  rw [← assignments_set h]
  exact Document.assignments_singleton (isQuery_of_writtenAs h)

theorem assignments_preset {p : Preset} (h : v.preset? = some p) :
    p.assignments = v.setter.assignments := by
  rw [assignments_setter]
  cases v with
  | bridge selection =>
      cases h
      simp only [Preset.assignments, Preset.field, check]
      cases Assignment.ofSelection selection.toInt <;> rfl
  | offsets row =>
      cases h
      simp only [Preset.assignments, Preset.field, check]
      cases Assignment.checkOffsets row <;> rfl
  | gains row =>
      cases h
      simp only [Preset.assignments, Preset.field, check]
      cases Assignment.checkGains row <;> rfl
  | transmissions row =>
      cases h
      simp only [Preset.assignments, Preset.field, check]
      cases Assignment.checkTransmissions row <;> rfl
  | sampleRate hz => cases h
  | burstSize rows => cases h

end TypedValue

/-! ### Several values -/

/-- Documents that bind the same names to the same values are the same. -/
theorem Document.Sorted.eq_of_mem_iff {d d' : Document} (h : d.Sorted) (h' : d'.Sorted)
    (hmem : ∀ entry, entry ∈ d ↔ entry ∈ d') : d = d' := by
  have hnodup : ∀ {d : Document}, d.Sorted → d.Nodup := fun h => .of_map Prod.fst h.names_nodup
  have hperm : d.Perm d' := (List.perm_ext_iff_of_nodup (hnodup h) (hnodup h')).mpr hmem
  refine hperm.eq_of_pairwise (fun x y _ _ hxy hyx => ?_) h h'
  exact absurd (String.lt_trans hxy hyx) (String.lt_irrefl _)

theorem Document.mem_of_mem_ofEntries {entries : List (String × Json)} {entry : String × Json}
    (h : entry ∈ ofEntries entries) : entry ∈ entries := by
  obtain ⟨l₁, l₂, heq, -⟩ := List.lookup_eq_some_iff.mp (mem_ofEntries_iff.mp h)
  have hmem : entry ∈ entries.reverse := heq ▸ List.mem_append_right l₁ List.mem_cons_self
  exact List.mem_reverse.mp hmem

/-- The entry of a setting, if the document has one. -/
def Document.binding? (d : Document) (key : Key) : Option (String × Json) :=
  (d.lookup key.name).map fun literal => (key.name, literal)

/-- A document that names only some settings has their entries, in the order of the names. -/
theorem Document.Sorted.eq_filterMap {d : Document} (h : d.Sorted) {keys : List Key}
    (hkeys : keys.Pairwise fun key key' => key.name < key'.name)
    (hnames : ∀ entry ∈ d, ∃ key ∈ keys, key.name = entry.1) :
    d = keys.filterMap d.binding? := by
  refine h.eq_of_mem_iff ?_ fun entry => ?_
  · refine List.pairwise_filterMap.mpr (hkeys.imp fun {key key'} hlt x hx y hy => ?_)
    obtain ⟨literal, -, rfl⟩ := Option.map_eq_some_iff.mp hx
    obtain ⟨literal', -, rfl⟩ := Option.map_eq_some_iff.mp hy
    exact hlt
  · rw [List.mem_filterMap]
    constructor
    · intro hentry
      obtain ⟨key, hkey, hname⟩ := hnames entry hentry
      refine ⟨key, hkey, Option.map_eq_some_iff.mpr ⟨entry.2, ?_, ?_⟩⟩
      · exact h.mem_iff.mp (hname ▸ hentry)
      · rw [hname]
    · rintro ⟨key, -, hentry⟩
      obtain ⟨literal, hlookup, rfl⟩ := Option.map_eq_some_iff.mp hentry
      exact h.mem_iff.mpr hlookup

namespace Preset

variable {p : Preset} {entries : List (String × Json)}

/-- The literal of a field has to pass the check of the field. -/
theorem field_of_literal {α : Type} {Writes : Json → α → Prop} {key : Key}
    {check : α → Except Refusal Assignment} {literal : Option Json} {value : Option α}
    (h : Option.Rel Writes literal value)
    (hcheck : ∀ {l a}, Writes l a → assignmentOf key.name l = check a) :
    (literal.map fun l => (key.name, l)).toList.mapM (fun e => assignmentOf e.1 e.2) =
      field check value := by
  cases h with
  | none => rfl
  | some hwrites =>
      simp only [Option.map_some, Option.toList_some, List.mapM_cons, hcheck hwrites, field]
      cases check _ <;> rfl

theorem isQuery_of_rel {α : Type} {Writes : Json → α → Prop} {literal : Json}
    {found : Option Json} {value : Option α} (h : Option.Rel Writes found value)
    (hfound : found = some literal) (hwrites : ∀ {l a}, Writes l a → isQuery l = false) :
    isQuery literal = false := by
  cases h with
  | none => cases hfound
  | some h =>
      cases hfound
      exact hwrites h

/-- The document of a preset has no queries. -/
theorem WrittenAs.literals (h : p.WrittenAs entries) :
    (Document.ofEntries entries).literals = Document.ofEntries entries := by
  refine List.filter_eq_self.mpr fun ⟨name, literal⟩ hentry => ?_
  have hfound := Document.mem_ofEntries_iff.mp hentry
  obtain ⟨key, hkey, rfl⟩ := h.names _ (Document.mem_of_mem_ofEntries hentry)
  suffices isQuery literal = false by simpa
  simp only [keys, List.mem_cons, List.not_mem_nil, or_false] at hkey
  obtain rfl | rfl | rfl | rfl := hkey
  · exact isQuery_of_rel h.bridge hfound WritesSelection.isQuery
  · exact isQuery_of_rel h.gains hfound WritesRow.isQuery
  · exact isQuery_of_rel h.offsets hfound WritesRow.isQuery
  · exact isQuery_of_rel h.transmissions hfound WritesRow.isQuery

/-- The document of a preset checks the same fields, in the order of their names. -/
theorem WrittenAs.assignments (h : p.WrittenAs entries) :
    (Document.ofEntries entries).assignments = do
      let bridge ← field Assignment.ofSelection p.bridge
      let gains ← field Assignment.checkGains p.gains
      let offsets ← field Assignment.checkOffsets p.offsets
      let transmissions ← field Assignment.checkTransmissions p.transmissions
      return bridge ++ (gains ++ (offsets ++ transmissions)) := by
  have hentries : Document.ofEntries entries =
      keys.filterMap (Document.ofEntries entries).binding? :=
    (Document.ofEntries_sorted entries).eq_filterMap (by decide) fun entry hentry =>
      h.names entry (Document.mem_of_mem_ofEntries hentry)
  change (Document.ofEntries entries).literals.mapM _ = _
  rw [h.literals, hentries, List.filterMap_eq_flatMap_toList]
  simp only [keys, List.flatMap_cons, List.flatMap_nil, List.append_nil, List.mapM_append,
    Document.binding?, Document.lookup_ofEntries]
  rw [field_of_literal h.bridge WritesSelection.assignmentOf,
    field_of_literal h.gains WritesRow.assignmentOf_gain,
    field_of_literal h.offsets WritesRow.assignmentOf_offset,
    field_of_literal h.transmissions WritesRow.assignmentOf_transmission]
  simp

/-- No field of a preset belongs to the shape. -/
theorem shapeKey?_eq_none {batch : List Assignment} (h : p.assignments = .ok batch) :
    ∀ a ∈ batch, a.shapeKey? = none := by
  intro a ha
  have hkey := (assignments_inv h).1.subset (List.mem_map_of_mem ha)
  cases a with
  | sampleRate hz => simp [Assignment.key] at hkey
  | burstSize rows => simp [Assignment.key] at hkey
  | bridge b => rfl
  | offsets row => rfl
  | gains row => rfl
  | transmissions row => rfl

theorem field_checkOffsets_of_finite {offsets : Option Row}
    (h : ∀ row, offsets = some row → ∀ x ∈ row, x.isFinite = true) :
    ∃ batch, field Assignment.checkOffsets offsets = .ok batch := by
  cases offsets with
  | none => exact ⟨[], rfl⟩
  | some row =>
      refine ⟨[.offsets row], ?_⟩
      simp only [field, Assignment.checkOffsets,
        PerChannel.firstFailing?_eq_none_iff.mpr (h row rfl)]
      rfl

end Preset

/-- Assignments outside the shape are committed in any order. -/
theorem Store.commit_perm {batch batch' : List Assignment} (h : Assignment.Checked batch)
    (hshape : ∀ a ∈ batch, a.shapeKey? = none) (hperm : batch'.Perm batch) (s : Store) :
    s.commit batch' = s.commit batch := by
  have hshape' : ∀ a ∈ batch', a.shapeKey? = none := fun a ha => hshape a (hperm.subset ha)
  rw [commit_eq_ok_iff.mpr ⟨fun _ => hshape', rfl⟩, commit_eq_ok_iff.mpr ⟨fun _ => hshape, rfl⟩,
    h.foldl_perm hperm]

/-- A preset and its document do the same to every store. -/
theorem Preset.WrittenAs.run_eq {p : Preset} {entries : List (String × Json)}
    (h : p.WrittenAs entries)
    (hfinite : ∀ row, p.offsets = some row → ∀ x ∈ row, x.isFinite = true) (s : Store) :
    (Command.apply (.obj entries)).run s = (Command.preset p).run s := by
  have hdocument : (Command.apply (.obj entries)).assignments = _ := h.assignments
  obtain ⟨offsets, hoffsets⟩ := field_checkOffsets_of_finite hfinite
  have hpreset : (Command.preset p).assignments = p.assignments := rfl
  rw [Command.run_eq, Command.run_eq, hdocument, hpreset]
  cases hbatch : p.assignments with
  | ok batch =>
      obtain ⟨bridge, hbridge, hrest⟩ := bind_eq_ok.mp hbatch
      obtain ⟨_, heq, hrest⟩ := bind_eq_ok.mp hrest
      obtain rfl := Except.ok.inj (hoffsets.symm.trans heq)
      obtain ⟨gains, hgains, hrest⟩ := bind_eq_ok.mp hrest
      obtain ⟨transmissions, htransmissions, hrest⟩ := bind_eq_ok.mp hrest
      obtain rfl : bridge ++ offsets ++ gains ++ transmissions = batch := Except.ok.inj hrest
      rw [hbridge, hgains, hoffsets, htransmissions]
      refine Store.commit_perm (assignments_checked hbatch) (shapeKey?_eq_none hbatch) ?_ s
      simp only [List.append_assoc]
      exact (List.perm_append_comm_assoc gains offsets transmissions).append_left bridge
  | error refusal =>
      -- Offsets are accepted, so the first refusal is that of another field.
      rw [Preset.assignments] at hbatch
      revert hbatch
      rw [hoffsets]
      cases field Assignment.ofSelection p.bridge <;>
        cases field Assignment.checkGains p.gains <;>
        cases field Assignment.checkTransmissions p.transmissions <;>
        simp +contextual [bind, Except.bind, pure, Except.pure]

/-- A value is taken over or refused alike whether its setter is called or a name, a document
or a preset carries it. So are the fields of a preset and the document of these fields, if the
offsets are finite. -/
theorem Store.writes_agree (s : Store) :
    (∀ v : TypedValue, (∃ literal, v.WrittenAs literal) ∧ ∀ literal, v.WrittenAs literal →
      s.set v.key.name literal = v.setter.run s ∧
      (s.apply (.obj [(v.key.name, literal)])).map Prod.fst = v.setter.run s ∧
      ∀ p, v.preset? = some p → s.applyPreset p = v.setter.run s) ∧
    ∀ (p : Preset) (entries : List (String × Json)), p.WrittenAs entries →
      (∀ row, p.offsets = some row → ∀ x ∈ row, x.isFinite = true) →
      (s.apply (.obj entries)).map Prod.fst = s.applyPreset p := by
  refine ⟨fun v => ⟨v.exists_writtenAs, fun literal h => ⟨?_, ?_, fun p hp => ?_⟩⟩,
    fun p entries h hfinite => h.run_eq hfinite s⟩
  · exact Command.run_congr (TypedValue.assignments_set h) s
  · exact Command.run_congr (TypedValue.assignments_apply h) s
  · exact Command.run_congr (c := .preset p) (TypedValue.assignments_preset hp) s

/-- A store whose shape is frozen refuses a rate in the same words however it is written, and
takes the fields of a document over as those of a preset. -/
theorem Store.writes_agree_frozen :
    let s := (Store.ofShape ⟨1000, 100, 50, 8⟩).freeze
    let offsets : Row := #v[0.5, -1.5, 0.0, 2.25]
    let gains : Row := #v[Float.ofInt 2, 0.5, 4.0, Float.ofInt 1]
    s.set "SampleRate" (.int 500) = .error (.frozen .sampleRate) ∧
      (s.apply (.obj [("SampleRate", .int 500)])).map Prod.fst = .error (.frozen .sampleRate) ∧
      (s.apply (.obj [("Offset", .arr [.float 0.5, .float (-1.5), .float 0.0, .float 2.25]),
        ("Gain", .arr [.int 2, .float 0.5, .float 4.0, .int 1]), ("Bridge", .int 1)])).map Prod.fst =
          s.applyPreset { bridge := some 1, offsets := some offsets, gains := some gains } := by
  intro s offsets gains
  obtain ⟨hvalues, hpresets⟩ := Store.writes_agree s
  obtain ⟨hset, happly, -⟩ := (hvalues (.sampleRate 500)).2 (.int 500) rfl
  have hrefused : (TypedValue.sampleRate 500).setter.run s = .error (.frozen .sampleRate) := rfl
  have hfinite : ∀ x ∈ offsets, x.isFinite = true := by decide
  refine ⟨hset.trans hrefused, happly.trans hrefused, hpresets _ _ ?_ ?_⟩
  · exact {
      bridge := .some ⟨1, rfl, rfl⟩
      offsets := .some ⟨_, rfl, rfl⟩
      gains := .some ⟨_, rfl, rfl⟩
      transmissions := .none
      names := by decide }
  · rintro row hrow
    cases hrow
    exact hfinite

end QuadDaq.Settings

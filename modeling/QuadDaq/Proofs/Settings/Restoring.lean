import QuadDaq.Proofs.Decimal.Whole
import QuadDaq.Proofs.Settings.Presets

/-!
# Answers that are written back

**Reading settings and writing them back leaves them as they are**, whatever was done to the
store before (`Store.performAll_restores`). A double is reported as an integer if it is a whole
number below `2 ^ 53` in magnitude, and as itself otherwise. Either form is read back as the same
double, except that `-0.0` comes back as `0.0`; the two are equal, and are reported alike.

Each entry of an answer therefore stands for an assignment of what the store holds already
(`Assignment.Repeats`), and so does the whole answer.
-/

namespace QuadDaq.Settings

/-! ### What is read back -/

/-- The form in which a finite double is reported. -/
inductive Reported (x : Float) : Json → Prop
  | whole {n : Int} (hvalue : Decimal.value x = n) (hlt : n.natAbs < 2 ^ 53) : Reported x (.int n)
  | double (h : ∀ n : Int, Decimal.value x = n → 2 ^ 53 ≤ n.natAbs) : Reported x (.float x)

/-- The form in which a row of finite doubles is reported. -/
def ReportedRow (row : Row) (value : Json) : Prop :=
  ∃ items, value = .arr items ∧ List.Forall₂ Reported row.toList items

/-- The double that the report of a double is read as. -/
def reread (x : Float) : Float :=
  match wholeNumber? x with
  | some n => Float.ofInt n
  | none => x

theorem wholeNumber?_eq_some_iff {x : Float} {n : Int} :
    wholeNumber? x = some n ↔ Decimal.value x = n ∧ n.natAbs < 2 ^ 53 := by
  have hlimit : Nat.pow 2 53 = 2 ^ 53 := rfl
  rw [Decimal.value_eq_intCast_iff, ← Decimal.Dyadic.whole?_eq_some_iff, wholeNumber?, hlimit]
  constructor
  · intro h
    split at h
    · next m hm =>
        split at h
        · next hlt =>
            have hn := Option.some.inj h
            have habs : n.natAbs = m := by
              rw [← hn]
              split <;> omega
            rw [habs]
            exact ⟨⟨hm, hn.symm⟩, hlt⟩
        · cases h
    · cases h
  · rintro ⟨⟨hm, hn⟩, hlt⟩
    rw [hm]
    simp only
    rw [if_pos hlt, ← hn]

/-- The sign of a zero is not reported. -/
theorem numberAnswer_zero : numberAnswer 0.0 = .int 0 ∧ numberAnswer (-0.0) = .int 0 := by
  obtain ⟨hpos, hneg⟩ := Decimal.value_zero
  have hpos : wholeNumber? 0.0 = some 0 :=
    wholeNumber?_eq_some_iff.mpr ⟨by rw [hpos, Int.cast_zero], by decide⟩
  have hneg : wholeNumber? (-0.0) = some 0 :=
    wholeNumber?_eq_some_iff.mpr ⟨by rw [hneg, Int.cast_zero], by decide⟩
  exact ⟨by rw [numberAnswer, hpos], by rw [numberAnswer, hneg]⟩

theorem reported_numberAnswer {x : Float} (h : x.isFinite = true) : Reported x (numberAnswer x) := by
  unfold numberAnswer
  cases hwhole : wholeNumber? x with
  | some n =>
      obtain ⟨hvalue, hlt⟩ := wholeNumber?_eq_some_iff.mp hwhole
      exact .whole hvalue hlt
  | none =>
      simp only [h, if_true]
      refine .double fun n hvalue => Nat.le_of_not_lt fun hlt => ?_
      rw [wholeNumber?_eq_some_iff.mpr ⟨hvalue, hlt⟩] at hwhole
      cases hwhole

theorem asFloat?_numberAnswer {x : Float} (h : x.isFinite = true) :
    (numberAnswer x).asFloat? = some (reread x) := by
  unfold numberAnswer reread
  cases wholeNumber? x with
  | some n => rfl
  | none =>
      simp only [h, if_true]
      rfl

/-- A double is read back as itself, up to the sign of a zero. -/
theorem reread_eq (x : Float) : reread x = x ∨ x = -0.0 ∧ reread x = 0.0 := by
  unfold reread
  cases hwhole : wholeNumber? x with
  | none => exact .inl rfl
  | some n =>
      obtain ⟨hvalue, hlt⟩ := wholeNumber?_eq_some_iff.mp hwhole
      by_cases hzero : n = 0
      · subst hzero
        rw [Int.cast_zero] at hvalue
        rcases Decimal.eq_zero_of_value hvalue with rfl | rfl
        · exact .inl rfl
        · exact .inr ⟨rfl, rfl⟩
      · exact .inl (Decimal.ofInt_of_value hzero hlt hvalue)

theorem isFinite_reread {x : Float} (h : x.isFinite = true) : (reread x).isFinite = true := by
  rcases reread_eq x with heq | ⟨-, heq⟩
  · rwa [heq]
  · rw [heq]
    decide

theorem reread_of_nonzero {x : Float} (h : (x == 0.0) = false) : reread x = x := by
  rcases reread_eq x with heq | ⟨rfl, -⟩
  · exact heq
  · exact absurd h (by decide)

/-! Rows. -/

section Rows

variable {row : Row}

theorem reportedRow_rowAnswer (h : ∀ x ∈ row, x.isFinite = true) :
    ReportedRow row (rowAnswer row) := by
  refine ⟨_, rfl, List.forall₂_map_right_iff.mpr (List.forall₂_same.mpr fun x hx => ?_)⟩
  exact reported_numberAnswer (h x (Vector.mem_toList_iff.mp hx))

theorem mapM_asFloat?_numberAnswer {values : List Float} (h : ∀ x ∈ values, x.isFinite = true) :
    (values.map numberAnswer).mapM Json.asFloat? = some (values.map reread) := by
  induction values with
  | nil => rfl
  | cons x values ih =>
      obtain ⟨hx, hvalues⟩ := List.forall_mem_cons.mp h
      rw [List.map_cons, List.mapM_cons, asFloat?_numberAnswer hx, ih hvalues]
      rfl

/-- The report of a row stands for what is read back. -/
theorem writesRow_rowAnswer (h : ∀ x ∈ row, x.isFinite = true) :
    WritesRow (rowAnswer row) (row.map reread) := by
  refine ⟨_, rfl, ?_⟩
  rw [Vector.toList_map]
  exact mapM_asFloat?_numberAnswer fun x hx => h x (Vector.mem_toList_iff.mp hx)

/-- The report of factors that can be used stands for the factors themselves. -/
theorem writesRow_factors (h : ∀ x ∈ row, x.isFinite = true ∧ (x == 0.0) = false) :
    WritesRow (rowAnswer row) row := by
  have hsame : row.map reread = row :=
    (Vector.map_congr_left fun x hx => reread_of_nonzero (h x hx).2).trans (Vector.map_id row)
  have hwrites := writesRow_rowAnswer fun x hx => (h x hx).1
  rwa [hsame] at hwrites

end Rows

/-! ### What stays -/

/-- The setting can be written, and the snapshot has a value for it. -/
def Snapshot.restorable (s : Snapshot) : Key → Bool
  | .bridge | .offset | .sampleRate | .burstSize => true
  | .gain => s.gains.isSome
  | .transmission => s.transmissions.isSome
  | .settlingTicks | .queueCapacity | .channels => false

/-- Every name is that of a setting that can be written and has a value. -/
def Snapshot.AllRestorable (s : Snapshot) (entries : List (String × Json)) : Prop :=
  ∀ entry ∈ entries, ∃ key : Key, key.name = entry.1 ∧ s.restorable key = true

/-- The row that the value of a setting is. -/
def Snapshot.row? (s : Snapshot) : Key → Option Row
  | .offset => some s.offsets
  | .gain => s.gains
  | .transmission => s.transmissions
  | .bridge | .sampleRate | .burstSize | .settlingTicks | .queueCapacity | .channels => none

/-- The rate and the rows per batch can be assigned. -/
structure Shape.InLimits (shape : Shape) : Prop where
  sampleRate : 1 ≤ shape.sampleRate ∧ shape.sampleRate ≤ maxSampleRate
  batchRows : 1 ≤ shape.batchRows ∧ shape.batchRows ≤ maxBurstSize

/-- The assignment is that of what the store holds already. -/
def Assignment.Repeats (s : Store) : Assignment → Prop
  | bridge b => b = s.snapshot.bridge
  | offsets row => row = s.snapshot.offsets.map reread
  | gains row => s.snapshot.gains = some row
  | transmissions row => s.snapshot.transmissions = some row
  | sampleRate hz => hz = s.shape.sampleRate
  | burstSize rows => rows = s.shape.batchRows

/-- Nothing but the epoch and the signs of zero offsets has changed. -/
structure Store.Restores (s s' : Store) : Prop where
  bridge : s'.snapshot.bridge = s.snapshot.bridge
  offsets : ∀ (ch : Nat) (_ : ch < 4), s'.snapshot.offsets[ch] = s.snapshot.offsets[ch] ∨
    s.snapshot.offsets[ch] = -0.0 ∧ s'.snapshot.offsets[ch] = 0.0
  gains : s'.snapshot.gains = s.snapshot.gains
  transmissions : s'.snapshot.transmissions = s.snapshot.transmissions
  shape : s'.shape = s.shape
  frozen : s'.frozen = s.frozen

namespace Store

variable {s s' : Store}

theorem Restores.refl (s : Store) : s.Restores s :=
  ⟨rfl, fun _ _ => .inl rfl, rfl, rfl, rfl, rfl⟩

/-- To assign what the store held at first does not lead away from it. -/
theorem Restores.assign (h : s.Restores s') {a : Assignment} (ha : a.Repeats s) :
    s.Restores (s'.assign a) := by
  cases a with
  | bridge b => exact { h with bridge := ha }
  | offsets row =>
      cases ha
      refine { h with offsets := fun ch hch => ?_ }
      change (s.snapshot.offsets.map reread)[ch] = _ ∨ _ ∧ (s.snapshot.offsets.map reread)[ch] = _
      rw [Vector.getElem_map]
      exact reread_eq _
  | gains row => exact { h with gains := ha.symm }
  | transmissions row => exact { h with transmissions := ha.symm }
  | sampleRate hz =>
      cases ha
      refine { h with shape := ?_ }
      change { s'.shape with sampleRate := s.shape.sampleRate } = s.shape
      rw [h.shape]
  | burstSize rows =>
      cases ha
      refine { h with shape := ?_ }
      change { s'.shape with batchRows := s.shape.batchRows } = s.shape
      rw [h.shape]

theorem restores_of_repeats {batch : List Assignment} (h : ∀ a ∈ batch, a.Repeats s) :
    s.Restores (batch.foldl assign s) :=
  foldl_assign_preserves (fun a ha _ hs => hs.assign (h a ha)) (.refl s)

/-- Nothing that has changed shows in an answer. -/
theorem Restores.answer_eq (h : s.Restores s') (d : Document) :
    d.answer s'.snapshot s'.shape = d.answer s.snapshot s.shape := by
  have hoffsets : rowAnswer s'.snapshot.offsets = rowAnswer s.snapshot.offsets := by
    have hmap : s'.snapshot.offsets.map numberAnswer = s.snapshot.offsets.map numberAnswer := by
      refine Vector.ext fun ch hch => ?_
      rw [Vector.getElem_map, Vector.getElem_map]
      rcases h.offsets ch hch with heq | ⟨hold, hnew⟩
      · rw [heq]
      · rw [hold, hnew, numberAnswer_zero.1, numberAnswer_zero.2]
    rw [rowAnswer, rowAnswer, ← Vector.toList_map, ← Vector.toList_map, hmap]
  refine List.map_congr_left fun e _ => ?_
  unfold answerFor
  cases Key.ofName? e.1 with
  | none => rfl
  | some key =>
      rw [h.shape]
      cases key <;> simp only [Key.answer, h.bridge, h.gains, h.transmissions, hoffsets]

end Store

/-! ### Entries of an answer -/

theorem Snapshot.Usable.reportedRow {s : Snapshot} (h : s.Usable) (shape : Shape) {key : Key}
    {row : Row} (hrow : s.row? key = some row) : ReportedRow row (key.answer s shape) := by
  cases key with
  | offset =>
      cases hrow
      exact reportedRow_rowAnswer h.offsets
  | gain =>
      simp only [Snapshot.row?] at hrow
      rw [Key.answer, hrow]
      exact reportedRow_rowAnswer fun x hx => (h.gains row hrow x hx).1
  | transmission =>
      simp only [Snapshot.row?] at hrow
      rw [Key.answer, hrow]
      exact reportedRow_rowAnswer fun x hx => (h.transmissions row hrow x hx).1
  | _ => cases hrow

section Entries

variable {s : Store}

/-- The answer for a setting is read as an assignment of what the store holds. -/
theorem Store.exists_repeats (h : s.snapshot.Usable) (hlimits : s.shape.InLimits) {key : Key}
    (hkey : s.snapshot.restorable key = true) :
    ∃ a, assignmentOf key.name (key.answer s.snapshot s.shape) = .ok a ∧ a.Repeats s := by
  cases key with
  | bridge =>
      have hwrites : WritesSelection (.int s.snapshot.bridge.toInt) s.snapshot.bridge.toInt := by
        cases s.snapshot.bridge
        exacts [⟨0, rfl, rfl⟩, ⟨1, rfl, rfl⟩]
      refine ⟨.bridge s.snapshot.bridge, ?_, rfl⟩
      rw [Key.answer, hwrites.assignmentOf, Assignment.ofSelection, Bridge.ofInt?_toInt]
  | offset =>
      refine ⟨.offsets (s.snapshot.offsets.map reread), ?_, rfl⟩
      rw [Key.answer, (writesRow_rowAnswer h.offsets).assignmentOf_offset]
      refine Assignment.checkOffsets_eq_ok_iff.mpr ⟨fun y hy => ?_, rfl⟩
      obtain ⟨x, hx, rfl⟩ := Vector.mem_map.mp hy
      exact isFinite_reread (h.offsets x hx)
  | gain =>
      obtain ⟨row, hrow⟩ := Option.isSome_iff_exists.mp hkey
      have husable := h.gains row hrow
      refine ⟨.gains row, ?_, hrow⟩
      rw [Key.answer, hrow, Option.map_some, Option.getD_some,
        (writesRow_factors husable).assignmentOf_gain]
      exact Assignment.checkGains_eq_ok_iff.mpr ⟨husable, rfl⟩
  | transmission =>
      obtain ⟨row, hrow⟩ := Option.isSome_iff_exists.mp hkey
      have husable := h.transmissions row hrow
      refine ⟨.transmissions row, ?_, hrow⟩
      rw [Key.answer, hrow, Option.map_some, Option.getD_some,
        (writesRow_factors husable).assignmentOf_transmission]
      exact Assignment.checkTransmissions_eq_ok_iff.mpr ⟨husable, rfl⟩
  | sampleRate =>
      have hword : s.shape.sampleRate < 2 ^ 32 := Nat.lt_of_le_of_lt hlimits.sampleRate.2 (by decide)
      refine ⟨.sampleRate s.shape.sampleRate, ?_, rfl⟩
      rw [Key.answer, assignmentOf_sampleRate (Json.asNat?_int hword)]
      exact if_pos hlimits.sampleRate
  | burstSize =>
      have hword : s.shape.batchRows < 2 ^ 64 := Nat.lt_of_le_of_lt hlimits.batchRows.2 (by decide)
      refine ⟨.burstSize s.shape.batchRows, ?_, rfl⟩
      rw [Key.answer, assignmentOf_burstSize (Json.asNat?_int hword)]
      exact if_pos hlimits.batchRows
  | settlingTicks => cases hkey
  | queueCapacity => cases hkey
  | channels => cases hkey

theorem isQuery_of_assignmentOf {name : String} {value : Json} {a : Assignment}
    (h : assignmentOf name value = .ok a) : isQuery value = false := by
  cases value with
  | str text =>
      -- No setting takes a string.
      unfold assignmentOf at h
      split at h
      · next key _ => cases key <;> cases h
      · cases h
  | _ => rfl

theorem Store.repeats_of_takes {entries : List (String × Json)} {batch : List Assignment}
    (h : List.Forall₂ s.Takes entries batch)
    (hentries : ∀ e ∈ entries, ∃ a, assignmentOf e.1 e.2 = .ok a ∧ a.Repeats s) :
    ∀ a ∈ batch, a.Repeats s := by
  induction h with
  | nil => simp
  | cons ha _ ih =>
      obtain ⟨⟨a, hassignment, hrepeats⟩, hrest⟩ := List.forall_mem_cons.mp hentries
      cases hassignment.symm.trans ha.1
      exact List.forall_mem_cons.mpr ⟨hrepeats, ih hrest⟩

end Entries

/-! ### Answers as documents -/

namespace Document

/-- The names of a document are those of its text. -/
theorem mem_names_ofEntries {entries : List (String × Json)} {name : String} :
    name ∈ (ofEntries entries).map Prod.fst ↔ name ∈ entries.map Prod.fst := by
  constructor
  · intro h
    obtain ⟨entry, hentry, rfl⟩ := List.mem_map.mp h
    exact List.mem_map_of_mem (mem_of_mem_ofEntries hentry)
  · intro h
    obtain ⟨entry, hentry, rfl⟩ := List.mem_map.mp h
    cases hlookup : entries.reverse.lookup entry.1 with
    | some value => exact List.mem_map.mpr ⟨(entry.1, value), mem_ofEntries_iff.mpr hlookup, rfl⟩
    | none =>
        have hne := List.lookup_eq_none_iff.mp hlookup entry (List.mem_reverse.mpr hentry)
        rw [bne_self_eq_false] at hne
        cases hne

/-- A document is what it is written as. -/
theorem Sorted.ofEntries_eq {d : Document} (h : d.Sorted) : ofEntries d = d := by
  refine (ofEntries_sorted d).eq_of_mem_iff h fun ⟨name, value⟩ => ?_
  refine ⟨mem_of_mem_ofEntries, fun hmem => ?_⟩
  obtain ⟨entry, hentry, heq⟩ :=
    List.mem_map.mp (mem_names_ofEntries.mpr (List.mem_map_of_mem (f := Prod.fst) hmem))
  -- The name occurs once in the document, and so it is bound to this value.
  have := List.inj_on_of_nodup_map h.names_nodup (mem_of_mem_ofEntries hentry) hmem heq
  rwa [← this]

theorem names_answer (d : Document) (snapshot : Snapshot) (shape : Shape) :
    (d.answer snapshot shape).map Prod.fst = d.map Prod.fst := by
  simp [answer]

/-- To answer an answer makes no difference: only the names count. -/
theorem answer_answer (d : Document) (snapshot : Snapshot) (shape : Shape) :
    (d.answer snapshot shape).answer snapshot shape = d.answer snapshot shape := by
  simp [answer]

theorem Sorted.answer {d : Document} (h : d.Sorted) (snapshot : Snapshot) (shape : Shape) :
    (d.answer snapshot shape).Sorted := by
  rw [Sorted, Document.answer, List.pairwise_map]
  exact h

end Document

theorem answerFor_name (snapshot : Snapshot) (shape : Shape) (key : Key) :
    answerFor snapshot shape key.name = key.answer snapshot shape := by
  rw [answerFor, Key.ofName?_name]

namespace Store

variable {s : Store}

/-- A document advances the epoch by one if it writes the bridge, and by none otherwise. -/
theorem foldl_assign_epoch {d : Document} {batch : List Assignment} (hd : d.Sorted)
    (h : List.Forall₂ s.Takes d batch) :
    (batch.foldl assign s).snapshot.bridgeEpoch =
      if Key.bridge.name ∈ d.map Prod.fst then s.snapshot.bridgeEpoch + 1
      else s.snapshot.bridgeEpoch := by
  have hnames := names_of_assignments (forall₂_takes_iff.mp h).1
  have hkeys : (batch.map Assignment.key).Nodup := by
    refine .of_map Key.name ?_
    rw [List.map_map]
    exact hnames ▸ hd.names_nodup
  have hselected : (batch.findSome? Assignment.bridge?).isSome = true ↔
      Key.bridge.name ∈ d.map Prod.fst := by
    rw [← hnames, List.findSome?_isSome_iff, List.mem_map]
    refine exists_congr fun a => and_congr_right fun _ => ?_
    cases a <;> simp [Assignment.bridge?, Assignment.key, Key.name]
  rw [(s.foldl_assign_bridge hkeys).2, advanceEpoch]
  exact if_congr hselected rfl rfl

/-- An answer is taken over by the store that gave it, and is given again afterwards. -/
theorem apply_answer (husable : s.snapshot.Usable) (hlimits : s.shape.InLimits)
    (hfrozen : s.frozen = false) {d : Document} (hd : d.Sorted)
    (hkeys : s.snapshot.AllRestorable d) :
    let answer := d.answer s.snapshot s.shape
    ∃ s', s.apply answer.toJson = .ok (s', answer) ∧ s.Restores s' ∧
      s'.snapshot.bridgeEpoch = if Key.bridge.name ∈ d.map Prod.fst
        then s.snapshot.bridgeEpoch + 1 else s.snapshot.bridgeEpoch := by
  intro answer
  have hsorted : answer.Sorted := hd.answer s.snapshot s.shape
  have hentries : ∀ e ∈ answer, ∃ a, assignmentOf e.1 e.2 = .ok a ∧ a.Repeats s := by
    intro e he
    obtain ⟨entry, hentry, rfl⟩ := List.mem_map.mp he
    obtain ⟨key, hname, hkey⟩ := hkeys entry hentry
    simp only [← hname, answerFor_name]
    exact exists_repeats husable hlimits hkey
  have hliterals : (Document.ofEntries answer).literals = answer := by
    rw [hsorted.ofEntries_eq]
    refine List.filter_eq_self.mpr fun e he => ?_
    obtain ⟨a, ha, -⟩ := hentries e he
    rw [isQuery_of_assignmentOf ha, Bool.not_false]
  have haccepts : ∀ e ∈ answer, s.Accepts e := by
    intro e he
    obtain ⟨a, ha, -⟩ := hentries e he
    exact accepts_iff.mpr ⟨a, ha, by simp [hfrozen]⟩
  obtain ⟨batch, hbatch⟩ := exists_takes haccepts
  have hrestores : s.Restores (batch.foldl assign s) :=
    restores_of_repeats (repeats_of_takes hbatch hentries)
  refine ⟨batch.foldl assign s, ?_, hrestores, ?_⟩
  · refine apply_eq_ok_iff.mpr ⟨batch, hliterals.symm ▸ hbatch, rfl, ?_⟩
    rw [hsorted.ofEntries_eq, hrestores.answer_eq]
    exact d.answer_answer s.snapshot s.shape
  · rw [foldl_assign_epoch hsorted hbatch, d.names_answer]

theorem Restores.offsets_beq {s' : Store} (h : s.Restores s') (husable : s.snapshot.Usable)
    (ch : Nat) (hch : ch < 4) : (s'.snapshot.offsets[ch] == s.snapshot.offsets[ch]) = true := by
  rcases h.offsets ch hch with heq | ⟨hold, hnew⟩
  · rw [heq]
    exact Decimal.beq_self_of_isFinite (husable.offsets _ (Vector.getElem_mem hch))
  · rw [hold, hnew]
    decide

/-- **Settings that are read and written back stay.** The query may name every setting that can
be written and has a value. -/
theorem performAll_restores (shape : Shape) (operations : List Operation)
    (entries : List (String × Json)) :
    let s := (ofShape shape).performAll operations
    s.frozen = false → s.shape.InLimits → s.snapshot.AllRestorable entries →
    ∃ answer s', s.get (.obj entries) = .ok answer ∧
      (∀ name, name ∈ answer.map Prod.fst ↔ name ∈ entries.map Prod.fst) ∧
      (∀ key row value, s.snapshot.row? key = some row → (key.name, value) ∈ answer →
        ReportedRow row value) ∧
      s.apply answer.toJson = .ok (s', answer) ∧
      s.Restores s' ∧
      (∀ (ch : Nat) (_ : ch < 4), (s'.snapshot.offsets[ch] == s.snapshot.offsets[ch]) = true) ∧
      s'.snapshot.bridgeEpoch = if Key.bridge.name ∈ entries.map Prod.fst
        then s.snapshot.bridgeEpoch + 1 else s.snapshot.bridgeEpoch := by
  intro s hfrozen hlimits hkeys
  have husable : s.snapshot.Usable := performAll_usable shape operations
  let d := Document.ofEntries entries
  obtain ⟨s', happly, hrestores, hepoch⟩ := apply_answer husable hlimits hfrozen
    (Document.ofEntries_sorted entries)
    fun entry hentry => hkeys entry (Document.mem_of_mem_ofEntries hentry)
  refine ⟨d.answer s.snapshot s.shape, s', rfl, fun name => ?_, ?_, happly, hrestores,
    hrestores.offsets_beq husable, ?_⟩
  · rw [d.names_answer, Document.mem_names_ofEntries]
  · intro key row value hrow hvalue
    obtain ⟨entry, -, heq⟩ := List.mem_map.mp hvalue
    obtain ⟨hname, rfl⟩ := Prod.ext_iff.mp heq
    simp only at hname
    rw [hname, answerFor_name]
    exact husable.reportedRow s.shape hrow
  · rw [hepoch]
    exact if_congr Document.mem_names_ofEntries rfl rfl

/-- Offsets of which one loses its sign, one is not whole, one is the largest whole number that
is reported as such and one is above it; and gains, but no transmissions. -/
def signedOperations : List Operation :=
  [.write (.setOffsets #v[-0.0, 0.5, -9007199254740991.0, 9007199254740992.0]),
    .write (.setGains #v[1.0, -2.0, 0.001, 4.0]), .write (.setBridge 1)]

theorem performAll_restores_signed :
    let s := (ofShape ⟨1000, 100, 50, 8⟩).performAll signedOperations
    let entries := [("Offset", Json.str "?"), ("Bridge", .null), ("Gain", .str "?")]
    s.frozen = false ∧ s.shape.InLimits ∧ s.snapshot.AllRestorable entries ∧
      ∃ answer s', s.get (.obj entries) = .ok answer ∧
        s.apply answer.toJson = .ok (s', answer) ∧ s.Restores s' ∧ s'.snapshot.bridgeEpoch = 2 := by
  intro s entries
  have hfrozen : s.frozen = false := rfl
  have hlimits : s.shape.InLimits := ⟨by decide, by decide⟩
  have hkeys : s.snapshot.AllRestorable entries := by
    simp only [Snapshot.AllRestorable, entries, List.forall_mem_cons]
    exact ⟨⟨.offset, rfl, rfl⟩, ⟨.bridge, rfl, rfl⟩, ⟨.gain, rfl, rfl⟩, by simp⟩
  obtain ⟨answer, s', hget, -, -, happly, hrestores, -, hepoch⟩ :=
    performAll_restores ⟨1000, 100, 50, 8⟩ signedOperations entries hfrozen hlimits hkeys
  exact ⟨hfrozen, hlimits, hkeys, answer, s', hget, happly, hrestores, hepoch⟩

end Store

end QuadDaq.Settings

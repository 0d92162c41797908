import Mathlib.Data.List.Perm.Basic
import QuadDaq.Proofs.Settings.Commit
import QuadDaq.Stream.Engine

/-!
# Documents are applied whole or not at all

**A document is worth the single writes of its literals, in whatever order** they are made.
It is accepted if each of them would be (`apply_eq_ok_iff`), because assignments of different
settings commute (`Store.assign_comm`) and none of them freezes or releases the shape.

A refused document has changed nothing, and its refusal is that of one literal
(`Store.Refuses`): of the first invalid one or, if all are valid, of the first that belongs to
the frozen shape.
-/

namespace QuadDaq.Settings

/-! ### Assignments in any order -/

/-- Assignments of different settings do not interfere. -/
theorem Store.assign_comm {a b : Assignment} (h : a.key ≠ b.key) (s : Store) :
    (s.assign a).assign b = (s.assign b).assign a := by
  cases a <;> cases b <;> first | rfl | exact absurd rfl h

theorem Assignment.Checked.foldl_perm {batch batch' : List Assignment} (h : Checked batch)
    (hperm : batch'.Perm batch) (s : Store) :
    batch'.foldl Store.assign s = batch.foldl Store.assign s := by
  refine (hperm.symm.foldl_eq' (fun a ha b hb t => ?_) s).symm
  by_cases hkey : a.key = b.key
  · rw [List.inj_on_of_nodup_map h.keys ha hb hkey]
  · exact Store.assign_comm hkey t

/-! ### Single writes -/

namespace Store

/-- The store accepts an entry of a document as a single write. -/
def Accepts (s : Store) (entry : String × Json) : Prop := ∃ s', s.set entry.1 entry.2 = .ok s'

/-- Single writes one after the other, up to the first that is refused. -/
def setAll (s : Store) (entries : List (String × Json)) : Except Refusal Store :=
  entries.foldlM (fun s entry => s.set entry.1 entry.2) s

/-- An entry stands for an assignment that the store carries out. -/
def Takes (s : Store) (entry : String × Json) (a : Assignment) : Prop :=
  assignmentOf entry.1 entry.2 = .ok a ∧ (s.frozen = true → a.shapeKey? = none)

variable {s s' : Store} {entry : String × Json} {entries : List (String × Json)}
  {batch : List Assignment} {refusal : Refusal}

theorem set_eq_ok_iff :
    s.set entry.1 entry.2 = .ok s' ↔ ∃ a, s.Takes entry a ∧ s.assign a = s' := by
  refine bind_eq_ok.trans (exists_congr fun a => ?_)
  rw [commit_eq_ok_iff, List.forall_mem_singleton, ← and_assoc]
  rfl

theorem accepts_iff : s.Accepts entry ↔ ∃ a, s.Takes entry a := by
  constructor
  · rintro ⟨s', h⟩
    obtain ⟨a, ha, -⟩ := set_eq_ok_iff.mp h
    exact ⟨a, ha⟩
  · rintro ⟨a, ha⟩
    exact ⟨_, set_eq_ok_iff.mpr ⟨a, ha, rfl⟩⟩

/-- While the shape is not frozen every valid entry is accepted. -/
theorem release_accepts_iff :
    s.release.Accepts entry ↔ ∃ a, assignmentOf entry.1 entry.2 = .ok a := by
  simp [accepts_iff, Takes, release]

theorem forall₂_takes_iff :
    List.Forall₂ s.Takes entries batch ↔
      List.Forall₂ (fun e a => assignmentOf e.1 e.2 = .ok a) entries batch ∧
        (s.frozen = true → ∀ a ∈ batch, a.shapeKey? = none) := by
  constructor
  · intro h
    induction h with
    | nil => simp
    | cons ha _ ih =>
        exact ⟨.cons ha.1 ih.1,
          fun hfrozen => List.forall_mem_cons.mpr ⟨ha.2 hfrozen, ih.2 hfrozen⟩⟩
  · rintro ⟨h, hshape⟩
    induction h with
    | nil => exact .nil
    | cons ha _ ih =>
        exact .cons ⟨ha, fun hfrozen => (List.forall_mem_cons.mp (hshape hfrozen)).1⟩
          (ih fun hfrozen => (List.forall_mem_cons.mp (hshape hfrozen)).2)

/-- If each entry is accepted alone, they stand for assignments that are all carried out. -/
theorem exists_takes (h : ∀ e ∈ entries, s.Accepts e) :
    ∃ batch, List.Forall₂ s.Takes entries batch := by
  induction entries with
  | nil => exact ⟨[], .nil⟩
  | cons e rest ih =>
      obtain ⟨he, hrest⟩ := List.forall_mem_cons.mp h
      obtain ⟨a, ha⟩ := accepts_iff.mp he
      obtain ⟨batch, hbatch⟩ := ih hrest
      exact ⟨a :: batch, .cons ha hbatch⟩

theorem accepts_of_forall₂ (h : List.Forall₂ s.Takes entries batch) :
    ∀ e ∈ entries, s.Accepts e := by
  induction h with
  | nil => simp
  | cons ha _ ih => exact List.forall_mem_cons.mpr ⟨accepts_iff.mpr ⟨_, ha⟩, ih⟩

/-- Single writes carry out their assignments one by one. -/
theorem setAll_eq (h : List.Forall₂ s.Takes entries batch) :
    s.setAll entries = .ok (batch.foldl assign s) := by
  induction entries generalizing s batch with
  | nil =>
      cases h
      rfl
  | cons e rest ih =>
      obtain ⟨a, batch', ha, hrest, rfl⟩ := List.forall₂_cons_left_iff.mp h
      have hset : s.set e.1 e.2 = .ok (s.assign a) := set_eq_ok_iff.mpr ⟨a, ha, rfl⟩
      rw [setAll, List.foldlM_cons, hset]
      -- An assignment does not change whether the shape is frozen.
      exact ih (s := s.assign a) hrest

/-! ### Documents that are taken over -/

/-- A document is taken over if its literals stand for assignments that are all carried
out. -/
theorem apply_eq_ok_iff {answer : Document} :
    s.apply (.obj entries) = .ok (s', answer) ↔
      ∃ batch, List.Forall₂ s.Takes (Document.ofEntries entries).literals batch ∧
        batch.foldl assign s = s' ∧
        (Document.ofEntries entries).answer s'.snapshot s'.shape = answer := by
  simp only [forall₂_takes_iff, ← Document.assignments_eq_ok_iff]
  refine bind_eq_ok.trans ?_
  simp only [Document.ofJson, Except.ok.injEq, exists_eq_left']
  refine bind_eq_ok.trans (exists_congr fun batch => ?_)
  constructor
  · rintro ⟨hbatch, h⟩
    obtain ⟨t, hcommit, h⟩ := bind_eq_ok.mp h
    cases h
    obtain ⟨hshape, heq⟩ := commit_eq_ok_iff.mp hcommit
    exact ⟨⟨hbatch, hshape⟩, heq, rfl⟩
  · rintro ⟨⟨hbatch, hshape⟩, rfl, rfl⟩
    exact ⟨hbatch, bind_eq_ok.mpr ⟨_, commit_eq_ok_iff.mpr ⟨hshape, rfl⟩, rfl⟩⟩

/-- What becomes of a store that takes a document over, and how it answers. -/
structure TakesOver (s : Store) (d : Document) (s' : Store) (answer : Document) : Prop where
  /-- Single writes of the literals lead to the same store in any order. -/
  inAnyOrder : ∀ order : List (String × Json), order.Perm d.literals → s.setAll order = .ok s'
  /-- The answer has the names of the document. -/
  names : answer.map Prod.fst = d.map Prod.fst
  /-- A name is bound to what the new store says when it is asked for it. -/
  answered : ∀ entry ∈ answer, ∀ value, s'.get (.obj [(entry.1, value)]) = .ok [entry]
  unknown : ∀ entry ∈ answer, (∀ key : Key, key.name ≠ entry.1) → entry.2 = .str "!unknown"

/-- A name without a setting is answered as such. -/
theorem answerFor_unknown {snapshot : Snapshot} {shape : Shape} {name : String}
    (h : ∀ key : Key, key.name ≠ name) : answerFor snapshot shape name = .str "!unknown" := by
  unfold answerFor
  split
  · next key hkey => exact absurd (Key.name_of_ofName? hkey) (h key)
  · rfl

theorem takesOver_of_apply {answer : Document} (h : s.apply (.obj entries) = .ok (s', answer)) :
    s.TakesOver (Document.ofEntries entries) s' answer := by
  obtain ⟨batch, htakes, rfl, rfl⟩ := apply_eq_ok_iff.mp h
  have hchecked : Assignment.Checked batch :=
    Document.assignments_checked (Document.ofEntries_sorted entries)
      (Document.assignments_eq_ok_iff.mpr (forall₂_takes_iff.mp htakes).1)
  refine ⟨?_, ?_, ?_, ?_⟩
  · intro order hperm
    -- The assignments of the permuted literals are the permuted assignments.
    obtain ⟨batch', htakes', hperm'⟩ := List.perm_comp_forall₂ hperm htakes
    rw [setAll_eq htakes', hchecked.foldl_perm hperm']
  · simp [Document.answer]
  · intro entry hentry value
    obtain ⟨e, -, rfl⟩ := List.mem_map.mp hentry
    rfl
  · intro entry hentry hunknown
    obtain ⟨e, -, rfl⟩ := List.mem_map.mp hentry
    exact answerFor_unknown hunknown

/-! ### Documents that are refused -/

/-- The store refuses the first entry that it does not accept with this refusal. -/
def FirstRefusal (s : Store) (entries : List (String × Json)) (refusal : Refusal) : Prop :=
  ∃ before entry after, entries = before ++ entry :: after ∧
    (∀ e ∈ before, s.Accepts e) ∧ s.set entry.1 entry.2 = .error refusal

/-- Why a store refuses a document. -/
structure Refuses (s : Store) (d : Document) (refusal : Refusal) : Prop where
  /-- Of literals that no store accepts the first one is the reason. -/
  invalid : (∃ l ∈ d.literals, ¬s.release.Accepts l) →
    s.release.FirstRefusal d.literals refusal
  /-- If there are none, the reason is the first literal that belongs to the frozen shape. -/
  frozen : (∀ l ∈ d.literals, s.release.Accepts l) →
    s.frozen = true ∧ s.FirstRefusal d.literals refusal
  isFrozen : (∃ key, refusal = .frozen key) ↔ ∀ l ∈ d.literals, s.release.Accepts l

theorem set_eq_error_of_invalid (h : assignmentOf entry.1 entry.2 = .error refusal) :
    s.set entry.1 entry.2 = .error refusal := by
  rw [set, h]
  rfl

/-- Of valid entries a frozen store refuses the first that belongs to its shape. -/
theorem firstRefusal_of_frozen (hfrozen : s.frozen = true)
    (h : List.Forall₂ (fun e a => assignmentOf e.1 e.2 = .ok a) entries batch) {key : Key}
    (hkey : batch.findSome? Assignment.shapeKey? = some key) :
    s.FirstRefusal entries (.frozen key) := by
  induction h with
  | nil => cases hkey
  | @cons e a rest _ ha _ ih =>
      cases hshape : a.shapeKey? with
      | some key' =>
          simp only [List.findSome?_cons, hshape, Option.some.injEq] at hkey
          refine ⟨[], e, rest, rfl, by simp, ?_⟩
          simp [set, ha, commit, hfrozen, hshape, hkey, bind, Except.bind]
      | none =>
          simp only [List.findSome?_cons, hshape] at hkey
          obtain ⟨before, entry, after, rfl, hbefore, hset⟩ := ih hkey
          have haccepts : s.Accepts e := accepts_iff.mpr ⟨a, ha, fun _ => hshape⟩
          exact ⟨e :: before, entry, after, rfl, List.forall_mem_cons.mpr ⟨haccepts, hbefore⟩, hset⟩

end Store

/-- A value is never refused because of the state of the store. -/
theorem Key.assignment_ne_frozen (key : Key) (value : Json) (shapeKey : Key) :
    key.assignment value ≠ .error (.frozen shapeKey) := by
  have hrow : ∀ check : Row → Except Refusal Assignment,
      (∀ row, check row ≠ .error (.frozen shapeKey)) →
      (channelValues key value >>= check) ≠ .error (.frozen shapeKey) := by
    intro check hcheck
    cases hvalues : channelValues key value with
    | ok row => exact hcheck row
    | error refusal =>
        rintro heq
        cases heq
        revert hvalues
        unfold channelValues
        split
        · split
          · simp
          split <;> simp
        · simp
  cases key with
  | bridge =>
      simp only [assignment, Assignment.ofSelection]
      split
      · split <;> simp
      · simp
  | offset =>
      refine hrow _ fun row => ?_
      unfold Assignment.checkOffsets
      split <;> simp
  | gain =>
      refine hrow _ fun row => ?_
      unfold Assignment.checkGains
      split <;> simp
  | transmission =>
      refine hrow _ fun row => ?_
      unfold Assignment.checkTransmissions
      split <;> simp
  | sampleRate =>
      simp only [assignment, Assignment.checkSampleRate]
      split
      · split <;> simp
      · simp
  | burstSize =>
      simp only [assignment, Assignment.checkBurstSize]
      split
      · split <;> simp
      · simp
  | settlingTicks => simp [assignment]
  | queueCapacity => simp [assignment]
  | channels => simp [assignment]

theorem assignmentOf_ne_frozen (name : String) (value : Json) (shapeKey : Key) :
    assignmentOf name value ≠ .error (.frozen shapeKey) := by
  unfold assignmentOf
  split
  · exact Key.assignment_ne_frozen _ _ _
  · simp

namespace Store

variable {s : Store} {entries : List (String × Json)} {refusal : Refusal}

/-- A document is refused for an invalid literal, or else because a valid one belongs to the
frozen shape. -/
theorem apply_eq_error_cases (h : s.apply (.obj entries) = .error refusal) :
    (Document.ofEntries entries).assignments = .error refusal ∨
    ∃ batch key, (Document.ofEntries entries).assignments = .ok batch ∧ s.frozen = true ∧
      batch.findSome? Assignment.shapeKey? = some key ∧ refusal = .frozen key := by
  have happly : s.apply (.obj entries) = (Document.ofEntries entries).assignments >>= fun batch =>
      s.commit batch >>= fun s' =>
        .ok (s', (Document.ofEntries entries).answer s'.snapshot s'.shape) :=
    rfl
  rw [happly] at h
  cases hbatch : (Document.ofEntries entries).assignments with
  | error refusal' =>
      rw [hbatch] at h
      cases h
      exact .inl rfl
  | ok batch =>
      right
      rw [hbatch] at h
      cases hfrozen : s.frozen with
      | false => simp [commit, hfrozen, bind, Except.bind] at h
      | true =>
          cases hkey : batch.findSome? Assignment.shapeKey? with
          | none => simp [commit, hfrozen, hkey, bind, Except.bind] at h
          | some key =>
              simp only [commit, hfrozen, hkey, bind, Except.bind, if_true, Except.error.injEq] at h
              exact ⟨batch, key, rfl, rfl, hkey, h.symm⟩

theorem refuses_of_apply (h : s.apply (.obj entries) = .error refusal) :
    s.Refuses (Document.ofEntries entries) refusal := by
  rcases apply_eq_error_cases h with hinvalid | ⟨batch, key, hbatch, hfrozen, hkey, rfl⟩
  · obtain ⟨before, entry, after, heq, hbefore, hentry⟩ := mapM_eq_error_iff.mp hinvalid
    have hmem : entry ∈ (Document.ofEntries entries).literals := by
      rw [Document.literals, heq]
      exact List.mem_append_right _ List.mem_cons_self
    have hnot : ¬∀ l ∈ (Document.ofEntries entries).literals, s.release.Accepts l := by
      intro hall
      obtain ⟨a, ha⟩ := release_accepts_iff.mp (hall entry hmem)
      rw [hentry] at ha
      cases ha
    refine ⟨fun _ => ?_, fun hall => absurd hall hnot, ?_⟩
    · exact ⟨before, entry, after, heq, fun e he => release_accepts_iff.mpr (hbefore e he),
        set_eq_error_of_invalid hentry⟩
    · refine iff_of_false ?_ hnot
      rintro ⟨key, rfl⟩
      exact assignmentOf_ne_frozen _ _ _ hentry
  · have hassignments := Document.assignments_eq_ok_iff.mp hbatch
    have hall : ∀ l ∈ (Document.ofEntries entries).literals, s.release.Accepts l :=
      accepts_of_forall₂ (forall₂_takes_iff.mpr ⟨hassignments, by simp [release]⟩)
    refine ⟨?_, fun _ => ⟨hfrozen, firstRefusal_of_frozen hfrozen hassignments hkey⟩,
      iff_of_true ⟨key, rfl⟩ hall⟩
    rintro ⟨l, hl, hnot⟩
    exact absurd (hall l hl) hnot

/-- A document is accepted exactly if each of its literals is, as a single write. -/
theorem apply_isOk_iff :
    (∃ r, s.apply (.obj entries) = .ok r) ↔
      ∀ l ∈ (Document.ofEntries entries).literals, s.Accepts l := by
  constructor
  · rintro ⟨⟨s', answer⟩, h⟩
    obtain ⟨batch, htakes, -⟩ := apply_eq_ok_iff.mp h
    exact accepts_of_forall₂ htakes
  · intro h
    obtain ⟨batch, htakes⟩ := exists_takes h
    exact ⟨(_, _), apply_eq_ok_iff.mpr ⟨batch, htakes, rfl, rfl⟩⟩

end Store

end QuadDaq.Settings

namespace QuadDaq.Engine

open Settings (Document Refusal Store)

variable {β : Type}

/-- A settings document that is no object is refused. Another one is taken over as a whole if
every literal of it would be accepted alone, and changes nothing otherwise. -/
theorem apply_whole_or_not (e : Engine β) (document : Json) :
    ((∀ entries, document ≠ .obj entries) →
      e.apply document = (e, .error (.invalidArgument Refusal.notAnObject.message))) ∧
    ∀ entries, document = .obj entries →
      (Document.ofEntries entries).Sorted ∧
      (∀ name value, (name, value) ∈ Document.ofEntries entries ↔
        entries.reverse.lookup name = some value) ∧
      ((∃ answer, (e.apply document).2 = .ok answer) ↔
        ∀ l ∈ (Document.ofEntries entries).literals, e.store.Accepts l) ∧
      (∀ answer, (e.apply document).2 = .ok answer →
        ∃ store, (e.apply document).1 = { e with store := store } ∧
          e.store.TakesOver (Document.ofEntries entries) store answer) ∧
      ∀ error, (e.apply document).2 = .error error →
        (e.apply document).1 = e ∧
          ∃ refusal, error = .invalidArgument refusal.message ∧
            e.store.Refuses (Document.ofEntries entries) refusal := by
  constructor
  · intro hobject
    cases document with
    | obj entries => exact absurd rfl (hobject entries)
    | null => rfl
    | bool b => rfl
    | int n => rfl
    | float x => rfl
    | str s => rfl
    | arr items => rfl
  · rintro entries rfl
    refine ⟨Document.ofEntries_sorted entries, fun name value => Document.mem_ofEntries_iff, ?_⟩
    rw [← Store.apply_isOk_iff]
    cases happly : e.store.apply (.obj entries) with
    | ok r =>
        obtain ⟨store, answer⟩ := r
        simp only [apply, happly]
        refine ⟨iff_of_true ⟨answer, rfl⟩ ⟨_, rfl⟩, ?_, by simp⟩
        rintro answer' heq
        cases heq
        exact ⟨store, rfl, Store.takesOver_of_apply happly⟩
    | error refusal =>
        simp only [apply, happly]
        refine ⟨by simp, by simp, ?_⟩
        rintro error heq
        cases heq
        exact ⟨trivial, refusal, rfl, Store.refuses_of_apply happly⟩

/-- An engine without a board, with its shape frozen or not. -/
def shelved (frozen : Bool) : Engine Unit where
  config := {}
  buttonConfig := {}
  board := ()
  button := none
  store := { Store.ofShape ⟨1000, 100, 50, 8⟩ with frozen := frozen }
  latestRate := 1000

/-- A query, a literal that shapes the stream, and one that does not. -/
def mixedEntries : List (String × Json) :=
  [("SampleRate", .int 500), ("Gain", .str "?"), ("Bridge", .int 1)]

theorem apply_whole_or_not_mixed :
    (∃ store answer, ((shelved false).apply (.obj mixedEntries)).2 = .ok answer ∧
      (shelved false).store.TakesOver (Document.ofEntries mixedEntries) store answer) ∧
    ((shelved true).apply (.obj mixedEntries)).1 = shelved true ∧
      ∃ refusal, (shelved true).store.Refuses (Document.ofEntries mixedEntries) refusal := by
  obtain ⟨-, -, -, htaken, -⟩ :=
    (apply_whole_or_not (shelved false) (.obj mixedEntries)).2 mixedEntries rfl
  obtain ⟨-, -, -, -, hrefused⟩ :=
    (apply_whole_or_not (shelved true) (.obj mixedEntries)).2 mixedEntries rfl
  obtain ⟨store, -, htakes⟩ := htaken _ rfl
  obtain ⟨hsame, refusal, -, hrefuses⟩ := hrefused _ rfl
  exact ⟨⟨store, _, rfl, htakes⟩, hsame, refusal, hrefuses⟩

end QuadDaq.Engine

import Mathlib.Data.List.Forall2
import Mathlib.Data.List.Nodup
import QuadDaq.Proofs.Settings.Documents
import QuadDaq.Settings.Command

/-!
# Every write is a commit of validated assignments

**There is one way into the store.** Whatever command writes it, the store afterwards is
the result of committing assignments (`Command.run_eq`). Each of them has passed the check of
its setting, and no two of them write the same setting (`Command.assignments_inv`). What all
assignments preserve, every command preserves.
-/

namespace QuadDaq.Settings

/-! ### Computations that may be refused -/

section Except

variable {ε α γ : Type}

theorem bind_eq_ok {x : Except ε α} {f : α → Except ε γ} {c : γ} :
    (x >>= f) = .ok c ↔ ∃ a, x = .ok a ∧ f a = .ok c := by
  cases x with
  | error e => simp [bind, Except.bind]
  | ok a => simp [bind, Except.bind]

theorem map_eq_ok {x : Except ε α} {f : α → γ} {c : γ} :
    x.map f = .ok c ↔ ∃ a, x = .ok a ∧ f a = c := by
  cases x with
  | error e => simp [Except.map]
  | ok a => simp [Except.map]

/-- The results of a sequence of computations, each with what it is the result of. -/
theorem mapM_eq_ok_iff {f : α → Except ε γ} {l : List α} {out : List γ} :
    l.mapM f = .ok out ↔ List.Forall₂ (fun a c => f a = .ok c) l out := by
  induction l generalizing out with
  | nil => cases out <;> simp [pure, Except.pure]
  | cons a l ih =>
      rw [List.mapM_cons, bind_eq_ok, List.forall₂_cons_left_iff]
      refine exists_congr fun c => ?_
      rw [bind_eq_ok]
      constructor
      · rintro ⟨ha, rest, hrest, heq⟩
        exact ⟨rest, ha, ih.mp hrest, (Except.ok.inj heq).symm⟩
      · rintro ⟨rest, ha, hrest, rfl⟩
        exact ⟨ha, rest, ih.mpr hrest, rfl⟩

/-- A sequence of computations fails with the first one that fails. -/
theorem mapM_eq_error_iff {f : α → Except ε γ} {l : List α} {e : ε} :
    l.mapM f = .error e ↔ ∃ before a after, l = before ++ a :: after ∧
      (∀ b ∈ before, ∃ c, f b = .ok c) ∧ f a = .error e := by
  induction l with
  | nil => simp [pure, Except.pure]
  | cons a l ih =>
      rw [List.mapM_cons]
      cases ha : f a with
      | error e' =>
          constructor
          · intro h
            cases h
            exact ⟨[], a, l, rfl, by simp, ha⟩
          · rintro ⟨before, a', after, heq, hbefore, ha'⟩
            -- The head fails, so nothing stands before the first failure.
            cases before with
            | nil =>
                obtain ⟨rfl, -⟩ := List.cons.inj heq
                rw [ha] at ha'
                cases ha'
                rfl
            | cons b before =>
                obtain ⟨rfl, -⟩ := List.cons.inj heq
                obtain ⟨c, hc⟩ := hbefore a List.mem_cons_self
                rw [ha] at hc
                cases hc
      | ok c =>
          have hrest : (Except.ok c >>= fun c => l.mapM f >>= fun rest => pure (c :: rest)) =
              .error e ↔ l.mapM f = .error e := by
            cases l.mapM f <;> simp [bind, Except.bind, pure, Except.pure]
          rw [hrest, ih]
          constructor
          · rintro ⟨before, a', after, rfl, hbefore, ha'⟩
            exact ⟨a :: before, a', after, rfl, List.forall_mem_cons.mpr ⟨⟨c, ha⟩, hbefore⟩, ha'⟩
          · rintro ⟨before, a', after, heq, hbefore, ha'⟩
            cases before with
            | nil =>
                obtain ⟨rfl, -⟩ := List.cons.inj heq
                rw [ha] at ha'
                cases ha'
            | cons b before =>
                obtain ⟨rfl, rfl⟩ := List.cons.inj heq
                exact ⟨before, a', after, rfl, (List.forall_mem_cons.mp hbefore).2, ha'⟩

end Except

/-! ### Checked assignments -/

/-- What the check of its setting ensures of an assignment. -/
def Assignment.Valid : Assignment → Prop
  | bridge _ => True
  | offsets row => row.firstFailing? Float.isFinite = none
  | gains row => row.firstFailing? usableFactor = none
  | transmissions row => row.firstFailing? usableFactor = none
  | sampleRate hz => 1 ≤ hz ∧ hz ≤ maxSampleRate
  | burstSize rows => 1 ≤ rows ∧ rows ≤ maxBurstSize

/-- The setting that an assignment writes. -/
def Assignment.key : Assignment → Key
  | bridge _ => .bridge
  | offsets _ => .offset
  | gains _ => .gain
  | transmissions _ => .transmission
  | sampleRate _ => .sampleRate
  | burstSize _ => .burstSize

namespace Assignment

theorem ofSelection_inv {n : Int} {a : Assignment} (h : ofSelection n = .ok a) :
    a.key = .bridge ∧ a.Valid := by
  unfold ofSelection at h
  split at h
  · cases h
    exact ⟨rfl, trivial⟩
  · cases h

theorem checkOffsets_inv {row : Row} {a : Assignment} (h : checkOffsets row = .ok a) :
    a.key = .offset ∧ a.Valid := by
  unfold checkOffsets at h
  split at h
  · next hfinite =>
      cases h
      exact ⟨rfl, hfinite⟩
  · cases h

theorem checkGains_inv {row : Row} {a : Assignment} (h : checkGains row = .ok a) :
    a.key = .gain ∧ a.Valid := by
  unfold checkGains at h
  split at h
  · next husable =>
      cases h
      exact ⟨rfl, husable⟩
  · cases h

theorem checkTransmissions_inv {row : Row} {a : Assignment}
    (h : checkTransmissions row = .ok a) : a.key = .transmission ∧ a.Valid := by
  unfold checkTransmissions at h
  split at h
  · next husable =>
      cases h
      exact ⟨rfl, husable⟩
  · cases h

theorem checkSampleRate_inv {hz : Nat} {a : Assignment} (h : checkSampleRate hz = .ok a) :
    a.key = .sampleRate ∧ a.Valid := by
  unfold checkSampleRate at h
  split at h
  · next hlimits =>
      cases h
      exact ⟨rfl, hlimits⟩
  · cases h

theorem checkBurstSize_inv {rows : Nat} {a : Assignment} (h : checkBurstSize rows = .ok a) :
    a.key = .burstSize ∧ a.Valid := by
  unfold checkBurstSize at h
  split at h
  · next hlimits =>
      cases h
      exact ⟨rfl, hlimits⟩
  · cases h

end Assignment

theorem Key.assignment_inv {key : Key} {value : Json} {a : Assignment}
    (h : key.assignment value = .ok a) : a.key = key ∧ a.Valid := by
  cases key with
  | bridge =>
      simp only [Key.assignment] at h
      split at h
      · exact Assignment.ofSelection_inv h
      · cases h
  | offset =>
      obtain ⟨row, -, hcheck⟩ := bind_eq_ok.mp h
      exact Assignment.checkOffsets_inv hcheck
  | gain =>
      obtain ⟨row, -, hcheck⟩ := bind_eq_ok.mp h
      exact Assignment.checkGains_inv hcheck
  | transmission =>
      obtain ⟨row, -, hcheck⟩ := bind_eq_ok.mp h
      exact Assignment.checkTransmissions_inv hcheck
  | sampleRate =>
      simp only [Key.assignment] at h
      split at h
      · exact Assignment.checkSampleRate_inv h
      · cases h
  | burstSize =>
      simp only [Key.assignment] at h
      split at h
      · exact Assignment.checkBurstSize_inv h
      · cases h
  | settlingTicks => cases h
  | queueCapacity => cases h
  | channels => cases h

theorem assignmentOf_inv {name : String} {value : Json} {a : Assignment}
    (h : assignmentOf name value = .ok a) : a.key.name = name ∧ a.Valid := by
  unfold assignmentOf at h
  split at h
  · next key hkey =>
      obtain ⟨hwrites, hvalid⟩ := Key.assignment_inv h
      exact ⟨hwrites ▸ Key.name_of_ofName? hkey, hvalid⟩
  · cases h

/-- The assignments of a document, each with its literal. -/
theorem Document.assignments_eq_ok_iff {d : Document} {batch : List Assignment} :
    d.assignments = .ok batch ↔
      List.Forall₂ (fun e a => assignmentOf e.1 e.2 = .ok a) d.literals batch :=
  mapM_eq_ok_iff

/-- Assignments of entries write the settings that the entries name. -/
theorem names_of_assignments {entries : Document} {batch : List Assignment}
    (h : List.Forall₂ (fun e a => assignmentOf e.1 e.2 = .ok a) entries batch) :
    batch.map (fun a => a.key.name) = entries.map Prod.fst := by
  induction h with
  | nil => rfl
  | cons ha _ ih => rw [List.map_cons, List.map_cons, ih, (assignmentOf_inv ha).1]

theorem valid_of_assignments {entries : Document} {batch : List Assignment}
    (h : List.Forall₂ (fun e a => assignmentOf e.1 e.2 = .ok a) entries batch) :
    ∀ a ∈ batch, a.Valid := by
  induction h with
  | nil => simp
  | cons ha _ ih => exact List.forall_mem_cons.mpr ⟨(assignmentOf_inv ha).2, ih⟩

/-- No two assignments of a batch write the same setting, and all of them are valid. -/
structure Assignment.Checked (batch : List Assignment) : Prop where
  keys : (batch.map Assignment.key).Nodup
  valid : ∀ a ∈ batch, a.Valid

theorem Document.assignments_checked {d : Document} {batch : List Assignment} (hd : d.Sorted)
    (h : d.assignments = .ok batch) : Assignment.Checked batch := by
  rw [assignments_eq_ok_iff] at h
  refine ⟨.of_map Key.name ?_, valid_of_assignments h⟩
  rw [List.map_map]
  exact names_of_assignments h ▸ hd.literals.names_nodup

theorem Preset.field_inv {α : Type} {check : α → Except Refusal Assignment} {value : Option α}
    {key : Key} {batch : List Assignment} (h : field check value = .ok batch)
    (hcheck : ∀ {v a}, check v = .ok a → a.key = key ∧ a.Valid) :
    (batch.map Assignment.key).Sublist [key] ∧ ∀ a ∈ batch, a.Valid := by
  cases value with
  | none =>
      cases h
      simp
  | some v =>
      obtain ⟨a, ha, rfl⟩ := map_eq_ok.mp h
      obtain ⟨hkey, hvalid⟩ := hcheck ha
      simp [hkey, hvalid]

/-- A preset writes each of its fields to a setting of its own. -/
theorem Preset.assignments_inv {p : Preset} {batch : List Assignment}
    (h : p.assignments = .ok batch) :
    (batch.map Assignment.key).Sublist [.bridge, .offset, .gain, .transmission] ∧
      ∀ a ∈ batch, a.Valid := by
  obtain ⟨bridge, hbridge, h⟩ := bind_eq_ok.mp h
  obtain ⟨offsets, hoffsets, h⟩ := bind_eq_ok.mp h
  obtain ⟨gains, hgains, h⟩ := bind_eq_ok.mp h
  obtain ⟨transmissions, htransmissions, h⟩ := bind_eq_ok.mp h
  cases h
  obtain ⟨hbridge, hvalid₁⟩ := field_inv hbridge Assignment.ofSelection_inv
  obtain ⟨hoffsets, hvalid₂⟩ := field_inv hoffsets Assignment.checkOffsets_inv
  obtain ⟨hgains, hvalid₃⟩ := field_inv hgains Assignment.checkGains_inv
  obtain ⟨htransmissions, hvalid₄⟩ := field_inv htransmissions Assignment.checkTransmissions_inv
  constructor
  · simp only [List.map_append]
    exact ((hbridge.append hoffsets).append hgains).append htransmissions
  · simp only [List.forall_mem_append]
    exact ⟨⟨⟨hvalid₁, hvalid₂⟩, hvalid₃⟩, hvalid₄⟩

theorem Preset.assignments_checked {p : Preset} {batch : List Assignment}
    (h : p.assignments = .ok batch) : Assignment.Checked batch := by
  have hkeys : [Key.bridge, .offset, .gain, .transmission].Nodup := by decide
  obtain ⟨hsublist, hvalid⟩ := assignments_inv h
  exact ⟨hkeys.sublist hsublist, hvalid⟩

/-! ### Writes -/

/-- A commit is refused if it holds an assignment to a frozen shape, and else carries out all
its assignments. -/
theorem Store.commit_eq_ok_iff {s s' : Store} {batch : List Assignment} :
    s.commit batch = .ok s' ↔
      (s.frozen = true → ∀ a ∈ batch, a.shapeKey? = none) ∧ batch.foldl Store.assign s = s' := by
  unfold Store.commit
  cases hfrozen : s.frozen with
  | false => simp
  | true =>
      simp only [if_true, true_imp_iff]
      cases hkey : batch.findSome? Assignment.shapeKey? with
      | none => rw [and_iff_right (List.findSome?_eq_none_iff.mp hkey), Except.ok.injEq]
      | some key =>
          obtain ⟨a, ha, hshape⟩ := List.exists_of_findSome?_eq_some hkey
          simp only [reduceCtorEq, false_iff, not_and]
          intro hnone
          rw [hnone a ha] at hshape
          cases hshape

/-- The assignments that a command asks for, its first invalid value being its refusal. -/
def Command.assignments : Command → Except Refusal (List Assignment)
  | setBridge selection => (Assignment.ofSelection selection).map fun a => [a]
  | setOffsets row => (Assignment.checkOffsets row).map fun a => [a]
  | setGains row => (Assignment.checkGains row).map fun a => [a]
  | setTransmissions row => (Assignment.checkTransmissions row).map fun a => [a]
  | setSampleRate hz => (Assignment.checkSampleRate hz).map fun a => [a]
  | setBurstSize rows => (Assignment.checkBurstSize rows).map fun a => [a]
  | set name value => (assignmentOf name value).map fun a => [a]
  | apply document => Document.ofJson document >>= Document.assignments
  | preset p => p.assignments

/-- Every command commits its assignments. -/
theorem Command.run_eq (command : Command) (s : Store) :
    command.run s = command.assignments >>= s.commit := by
  have hone : ∀ checked : Except Refusal Assignment, (checked >>= fun a => s.commit [a]) =
      checked.map (fun a => [a]) >>= s.commit := by
    intro checked
    cases checked <;> rfl
  cases command with
  | setBridge selection => exact hone _
  | setOffsets row => exact hone _
  | setGains row => exact hone _
  | setTransmissions row => exact hone _
  | setSampleRate hz => exact hone _
  | setBurstSize rows => exact hone _
  | set name value => exact hone _
  | apply document =>
      simp only [run, assignments, Store.apply, bind_assoc]
      cases Document.ofJson document with
      | error refusal => rfl
      | ok d =>
          cases hbatch : d.assignments with
          | error refusal => simp [bind, Except.bind, Except.map, hbatch]
          | ok batch =>
              cases hcommit : s.commit batch <;>
                simp [bind, Except.bind, Except.map, pure, Except.pure, hbatch, hcommit]
  | preset p => rfl

theorem Document.sorted_of_ofJson {document : Json} {d : Document} (h : ofJson document = .ok d) :
    d.Sorted := by
  cases document <;> cases h
  exact ofEntries_sorted _

theorem Command.assignments_checked {command : Command} {batch : List Assignment}
    (h : command.assignments = .ok batch) : Assignment.Checked batch := by
  have hone : ∀ {checked : Except Refusal Assignment} {key : Key},
      (∀ {a}, checked = .ok a → a.key = key ∧ a.Valid) →
      checked.map (fun a => [a]) = .ok batch → Assignment.Checked batch := by
    intro checked key hcheck h
    obtain ⟨a, ha, rfl⟩ := map_eq_ok.mp h
    exact ⟨List.nodup_singleton _, List.forall_mem_singleton.mpr (hcheck ha).2⟩
  cases command with
  | setBridge selection => exact hone Assignment.ofSelection_inv h
  | setOffsets row => exact hone Assignment.checkOffsets_inv h
  | setGains row => exact hone Assignment.checkGains_inv h
  | setTransmissions row => exact hone Assignment.checkTransmissions_inv h
  | setSampleRate hz => exact hone Assignment.checkSampleRate_inv h
  | setBurstSize rows => exact hone Assignment.checkBurstSize_inv h
  | set name value =>
      obtain ⟨a, ha, rfl⟩ := map_eq_ok.mp h
      exact ⟨List.nodup_singleton _, List.forall_mem_singleton.mpr (assignmentOf_inv ha).2⟩
  | apply document =>
      obtain ⟨d, hd, hbatch⟩ := bind_eq_ok.mp h
      exact Document.assignments_checked (Document.sorted_of_ofJson hd) hbatch
  | preset p => exact Preset.assignments_checked h

/-- Every command that is not refused carries out checked assignments, none of them to a
frozen shape. -/
theorem Command.run_inv {command : Command} {s s' : Store} (h : command.run s = .ok s') :
    ∃ batch, command.assignments = .ok batch ∧ Assignment.Checked batch ∧
      (s.frozen = true → ∀ a ∈ batch, a.shapeKey? = none) ∧ batch.foldl Store.assign s = s' := by
  rw [run_eq, bind_eq_ok] at h
  obtain ⟨batch, hbatch, hcommit⟩ := h
  obtain ⟨hfrozen, heq⟩ := Store.commit_eq_ok_iff.mp hcommit
  exact ⟨batch, hbatch, assignments_checked hbatch, hfrozen, heq⟩

/-! ### What writes preserve -/

/-- What every assignment of a batch preserves, all of them together preserve. -/
theorem Store.foldl_assign_preserves {P : Store → Prop} {batch : List Assignment}
    (hassign : ∀ a ∈ batch, ∀ s, P s → P (s.assign a)) {s : Store} (hs : P s) :
    P (batch.foldl assign s) := by
  induction batch generalizing s with
  | nil => exact hs
  | cons a batch ih =>
      obtain ⟨ha, hbatch⟩ := List.forall_mem_cons.mp hassign
      exact ih hbatch (ha s hs)

theorem Store.foldl_assign_shape {batch : List Assignment} (h : ∀ a ∈ batch, a.shapeKey? = none)
    (s : Store) : (batch.foldl assign s).shape = s.shape := by
  refine foldl_assign_preserves (P := fun s' => s'.shape = s.shape) (fun a ha s' hs' => ?_) rfl
  cases a with
  | sampleRate hz => cases h _ ha
  | burstSize rows => cases h _ ha
  | bridge b => exact hs'
  | offsets row => exact hs'
  | gains row => exact hs'
  | transmissions row => exact hs'

/-- What every validated assignment preserves, every command preserves. -/
theorem Command.run_preserves {P : Store → Prop}
    (hassign : ∀ (s : Store) (a : Assignment), a.Valid → P s → P (s.assign a)) {command : Command}
    {s s' : Store} (h : command.run s = .ok s') (hs : P s) : P s' := by
  obtain ⟨batch, -, hchecked, -, rfl⟩ := run_inv h
  exact Store.foldl_assign_preserves (fun a ha s => hassign s a (hchecked.valid a ha)) hs

/-- No command freezes the shape or releases it. -/
theorem Command.run_frozen {command : Command} {s s' : Store} (h : command.run s = .ok s') :
    s'.frozen = s.frozen :=
  run_preserves (P := fun s' => s'.frozen = s.frozen) (fun _ _ _ h => h) h rfl

/-- No command gets at a frozen shape. -/
theorem Command.run_shape_of_frozen {command : Command} {s s' : Store}
    (h : command.run s = .ok s') (hfrozen : s.frozen = true) : s'.shape = s.shape := by
  obtain ⟨batch, -, -, hshape, rfl⟩ := run_inv h
  exact Store.foldl_assign_shape (hshape hfrozen) s

/-- Batches keep at least one row. -/
theorem Command.run_batchRows_pos {command : Command} {s s' : Store} (h : command.run s = .ok s')
    (hs : 0 < s.shape.batchRows) : 0 < s'.shape.batchRows := by
  refine run_preserves (P := fun s => 0 < s.shape.batchRows) (fun s a ha hpos => ?_) h hs
  cases a with
  | burstSize rows => exact ha.1
  | bridge b => exact hpos
  | offsets row => exact hpos
  | gains row => exact hpos
  | transmissions row => exact hpos
  | sampleRate hz => exact hpos

end QuadDaq.Settings

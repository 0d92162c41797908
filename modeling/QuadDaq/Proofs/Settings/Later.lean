import QuadDaq.Proofs.Settings.Commit

/-!
# Stores after more bridge assignments

**No answer tells how often the bridge was assigned before.** Commands do the same to two
stores that differ in their epochs only (`Command.run_later`), and documents are answered alike
(`Store.get_later`, `Store.apply_later`).
-/

namespace QuadDaq.Settings

/-- The same snapshot after so many more bridge assignments. -/
def Snapshot.later (epoch : UInt64) (s : Snapshot) : Snapshot :=
  { s with bridgeEpoch := epoch + s.bridgeEpoch }

/-- The same store after so many more bridge assignments. -/
def Store.later (epoch : UInt64) (s : Store) : Store := { s with snapshot := s.snapshot.later epoch }

section Later

variable (epoch : UInt64) (s : Store)

theorem Store.assign_later (a : Assignment) : (s.later epoch).assign a = (s.assign a).later epoch := by
  cases a with
  | bridge b =>
      simp only [assign, later, Assignment.onSnapshot, Snapshot.later, UInt64.add_assoc]
  | _ => rfl

theorem Store.foldl_assign_later (batch : List Assignment) : ∀ s : Store,
    batch.foldl assign (s.later epoch) = (batch.foldl assign s).later epoch := by
  induction batch with
  | nil => exact fun s => rfl
  | cons a rest ih => exact fun s => by rw [List.foldl_cons, List.foldl_cons, assign_later, ih]

theorem Store.commit_later (batch : List Assignment) :
    (s.later epoch).commit batch = (s.commit batch).map (later epoch) := by
  have hfrozen : (s.later epoch).frozen = s.frozen := rfl
  rw [commit, commit, hfrozen, foldl_assign_later]
  split <;> rfl

theorem Command.run_later (command : Command) :
    command.run (s.later epoch) = (command.run s).map (Store.later epoch) := by
  rw [run_eq, run_eq]
  cases command.assignments with
  | error refusal => rfl
  | ok batch => exact s.commit_later epoch batch

/-- No answer tells how many bridge assignments there were. -/
theorem answerFor_later (snapshot : Snapshot) (shape : Shape) (name : String) :
    answerFor (snapshot.later epoch) shape name = answerFor snapshot shape name := by
  unfold answerFor
  cases Key.ofName? name with
  | none => rfl
  | some key => cases key <;> rfl

theorem Document.answer_later (d : Document) (snapshot : Snapshot) (shape : Shape) :
    d.answer (snapshot.later epoch) shape = d.answer snapshot shape := by
  simp only [answer, answerFor_later]

theorem Store.get_later (document : Json) : (s.later epoch).get document = s.get document := by
  unfold get
  cases Document.ofJson document with
  | error refusal => rfl
  | ok d => exact congrArg Except.ok (d.answer_later epoch s.snapshot s.shape)

theorem Store.apply_later (document : Json) :
    (s.later epoch).apply document = (s.apply document).map fun p => (p.1.later epoch, p.2) := by
  unfold apply
  cases Document.ofJson document with
  | error refusal => rfl
  | ok d =>
      cases hbatch : d.assignments with
      | error refusal => simp [bind, Except.bind, Except.map, hbatch]
      | ok batch =>
          simp only [bind, Except.bind, hbatch, commit_later]
          cases s.commit batch with
          | error refusal => rfl
          | ok s' =>
              exact congrArg (fun answer => Except.ok (s'.later epoch, answer))
                (d.answer_later epoch s'.snapshot s'.shape)

end Later

end QuadDaq.Settings

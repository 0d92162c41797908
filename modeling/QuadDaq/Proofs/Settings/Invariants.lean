import QuadDaq.Proofs.Settings.Selection

/-!
# What holds of every store

**No write lets an unusable value in.** Every operation on a store either passes the checks of
`Assignment.Valid` or changes nothing, and therefore whatever the operations are
(`Store.performAll_lawful`):

* the offsets are finite, and factors that are set are finite and not zero (`Snapshot.Usable`);
* factors stay set, the sampling rate and the batch stay in their limits, and the rest of the
  shape never changes (`Store.Extends`);
* the bridge epoch counts the selections of the bridge, modulo `2 ^ 64`;
* a frozen shape stays as it is until it is released;
* every setting is reported as a number or a row of numbers, unless it is a factor that was
  never set (`Store.Answers`).
-/

namespace QuadDaq.Settings

/-! ### Operations -/

/-- What can be done to a store. -/
inductive Operation
  | write (command : Command)
  | get (query : Json)
  | freeze
  | release

namespace Store

/-- The store after an operation. A refused write changes nothing, and neither does a query. -/
def perform (s : Store) : Operation → Store
  | .write command => (command.run s).toOption.getD s
  | .get _ => s
  | .freeze => s.freeze
  | .release => s.release

/-- The store after a sequence of operations. -/
def performAll (s : Store) (operations : List Operation) : Store := operations.foldl perform s

/-- The bridge that an operation selects. -/
def selected? (s : Store) : Operation → Option Bridge
  | .write command => command.selected? s
  | .get _ | .freeze | .release => none

/-- The bridges that a sequence of operations selects, one for each commit that holds an
assignment of the bridge. -/
def selections (s : Store) : List Operation → List Bridge
  | [] => []
  | op :: rest => (s.selected? op).toList ++ (s.perform op).selections rest

end Store

/-! ### Properties -/

/-- Every value of a snapshot can be calibrated with. -/
structure Snapshot.Usable (s : Snapshot) : Prop where
  offsets : ∀ x ∈ s.offsets, x.isFinite = true
  gains : ∀ row, s.gains = some row → ∀ x ∈ row, x.isFinite = true ∧ (x == 0.0) = false
  transmissions : ∀ row, s.transmissions = some row →
    ∀ x ∈ row, x.isFinite = true ∧ (x == 0.0) = false

/-- What may become of a store: factors that are set stay set, the rate and the batch do not
leave their limits, and the other two numbers of the shape stay. -/
structure Store.Extends (s s' : Store) : Prop where
  gains : s.snapshot.gains.isSome = true → s'.snapshot.gains.isSome = true
  transmissions :
    s.snapshot.transmissions.isSome = true → s'.snapshot.transmissions.isSome = true
  sampleRate : 1 ≤ s.shape.sampleRate ∧ s.shape.sampleRate ≤ maxSampleRate →
    1 ≤ s'.shape.sampleRate ∧ s'.shape.sampleRate ≤ maxSampleRate
  batchRows : 1 ≤ s.shape.batchRows ∧ s.shape.batchRows ≤ maxBurstSize →
    1 ≤ s'.shape.batchRows ∧ s'.shape.batchRows ≤ maxBurstSize
  settlingTicks : s'.shape.settlingTicks = s.shape.settlingTicks
  queueCapacity : s'.shape.queueCapacity = s.shape.queueCapacity

/-- A JSON number. A double that is infinite or not a number is none. -/
def IsNumber : Json → Prop
  | .int _ => True
  | .float x => x.isFinite = true
  | _ => False

/-- Four JSON numbers, one for each channel. -/
def IsNumberRow : Json → Prop
  | .arr items => items.length = channelCount ∧ ∀ item ∈ items, IsNumber item
  | _ => False

/-- The form in which a setting is reported: `null` for factors that are not set, and numbers
for everything else. -/
def Snapshot.Reports (s : Snapshot) (value : Json) : Key → Prop
  | .offset => IsNumberRow value
  | .gain => if s.gains.isSome then IsNumberRow value else value = .null
  | .transmission => if s.transmissions.isSome then IsNumberRow value else value = .null
  | .bridge | .sampleRate | .burstSize | .settlingTicks | .queueCapacity | .channels =>
    IsNumber value

/-- An answer reports every setting that it names. -/
def Store.Answers (s : Store) (answer : Document) : Prop :=
  ∀ name value, (name, value) ∈ answer → ∀ key, Key.ofName? name = some key →
    s.snapshot.Reports value key

/-! ### Assignments -/

theorem PerChannel.firstFailing?_eq_none_iff {α : Type} {ok : α → Bool} {values : PerChannel α} :
    values.firstFailing? ok = none ↔ ∀ a ∈ values, ok a = true := by
  simp [PerChannel.firstFailing?, List.findIdx?_eq_none_iff]

theorem usableFactor_iff {x : Float} :
    Assignment.usableFactor x = true ↔ x.isFinite = true ∧ (x == 0.0) = false := by
  rw [Assignment.usableFactor, Bool.and_eq_true, Bool.not_eq_true']

/-- Valid values are usable ones. -/
theorem Snapshot.Usable.onSnapshot {s : Snapshot} (h : s.Usable) {a : Assignment}
    (ha : a.Valid) : (a.onSnapshot s).Usable := by
  cases a with
  | bridge b => exact ⟨h.offsets, h.gains, h.transmissions⟩
  | offsets row =>
      exact ⟨PerChannel.firstFailing?_eq_none_iff.mp ha, h.gains, h.transmissions⟩
  | gains row =>
      refine ⟨h.offsets, ?_, h.transmissions⟩
      rintro row' heq x hx
      cases heq
      exact usableFactor_iff.mp (PerChannel.firstFailing?_eq_none_iff.mp ha x hx)
  | transmissions row =>
      refine ⟨h.offsets, h.gains, ?_⟩
      rintro row' heq x hx
      cases heq
      exact usableFactor_iff.mp (PerChannel.firstFailing?_eq_none_iff.mp ha x hx)
  | sampleRate hz => exact h
  | burstSize rows => exact h

namespace Store

variable {s s' s'' : Store}

theorem Extends.refl (s : Store) : s.Extends s := ⟨id, id, id, id, rfl, rfl⟩

theorem Extends.trans (h : s.Extends s') (h' : s'.Extends s'') : s.Extends s'' where
  gains := h'.gains ∘ h.gains
  transmissions := h'.transmissions ∘ h.transmissions
  sampleRate := h'.sampleRate ∘ h.sampleRate
  batchRows := h'.batchRows ∘ h.batchRows
  settlingTicks := h'.settlingTicks.trans h.settlingTicks
  queueCapacity := h'.queueCapacity.trans h.queueCapacity

theorem extends_assign (s : Store) {a : Assignment} (ha : a.Valid) : s.Extends (s.assign a) := by
  cases a with
  | bridge b => exact ⟨id, id, id, id, rfl, rfl⟩
  | offsets row => exact ⟨id, id, id, id, rfl, rfl⟩
  | gains row => exact ⟨fun _ => rfl, id, id, id, rfl, rfl⟩
  | transmissions row => exact ⟨id, fun _ => rfl, id, id, rfl, rfl⟩
  | sampleRate hz => exact ⟨id, id, fun _ => ha, id, rfl, rfl⟩
  | burstSize rows => exact ⟨id, id, id, fun _ => ha, rfl, rfl⟩

/-! ### Operations preserve -/

theorem perform_write_of_ok {command : Command} (h : command.run s = .ok s') :
    s.perform (.write command) = s' := by
  simp only [perform, h, Except.toOption, Option.getD_some]

theorem perform_write_of_error {command : Command} {refusal : Refusal}
    (h : command.run s = .error refusal) : s.perform (.write command) = s := by
  simp only [perform, h, Except.toOption, Option.getD_none]

/-- What every valid assignment, a freeze and a release preserve, every operation preserves. -/
theorem perform_preserves {P : Store → Prop}
    (hassign : ∀ (s : Store) (a : Assignment), a.Valid → P s → P (s.assign a))
    (hfreeze : ∀ s, P s → P s.freeze) (hrelease : ∀ s, P s → P s.release) (hs : P s)
    (op : Operation) : P (s.perform op) := by
  cases op with
  | write command =>
      cases hrun : command.run s with
      | ok s' =>
          rw [perform_write_of_ok hrun]
          exact Command.run_preserves hassign hrun hs
      | error refusal =>
          rw [perform_write_of_error hrun]
          exact hs
  | get query => exact hs
  | freeze => exact hfreeze s hs
  | release => exact hrelease s hs

theorem performAll_preserves {P : Store → Prop} (hperform : ∀ s op, P s → P (s.perform op))
    (hs : P s) (operations : List Operation) : P (s.performAll operations) := by
  induction operations generalizing s with
  | nil => exact hs
  | cons op operations ih => exact ih (hperform s op hs)

theorem perform_usable (h : s.snapshot.Usable) (op : Operation) :
    (s.perform op).snapshot.Usable :=
  perform_preserves (P := fun s => s.snapshot.Usable) (fun _ _ ha h => h.onSnapshot ha)
    (fun _ h => h) (fun _ h => h) h op

theorem extends_perform (s : Store) (op : Operation) : s.Extends (s.perform op) :=
  perform_preserves (P := s.Extends) (fun s' _ ha h => h.trans (s'.extends_assign ha))
    (fun _ h => ⟨h.gains, h.transmissions, h.sampleRate, h.batchRows, h.settlingTicks,
      h.queueCapacity⟩)
    (fun _ h => ⟨h.gains, h.transmissions, h.sampleRate, h.batchRows, h.settlingTicks,
      h.queueCapacity⟩)
    (.refl s) op

theorem extends_performAll (s : Store) (operations : List Operation) :
    s.Extends (s.performAll operations) :=
  performAll_preserves (P := s.Extends) (fun s' op h => h.trans (s'.extends_perform op))
    (.refl s) operations

/-- An operation advances the epoch exactly if it selects a bridge. -/
theorem perform_epoch (s : Store) (op : Operation) :
    (s.perform op).snapshot.bridgeEpoch =
      advanceEpoch s.snapshot.bridgeEpoch (s.selected? op) := by
  cases op with
  | write command =>
      cases hrun : command.run s with
      | ok s' =>
          rw [perform_write_of_ok hrun]
          exact (Command.run_bridge hrun).2
      | error refusal =>
          rw [perform_write_of_error hrun, selected?, Command.selected?_of_error hrun]
          rfl
  | get query => rfl
  | freeze => rfl
  | release => rfl

theorem performAll_epoch (s : Store) (operations : List Operation) :
    (s.performAll operations).snapshot.bridgeEpoch.toNat =
      (s.snapshot.bridgeEpoch.toNat + (s.selections operations).length) % 2 ^ 64 := by
  induction operations generalizing s with
  | nil => exact (Nat.mod_eq_of_lt s.snapshot.bridgeEpoch.toNat_lt).symm
  | cons op operations ih =>
      have hcount :
          (if (s.selected? op).isSome then 1 else 0) = (s.selected? op).toList.length := by
        cases s.selected? op <;> rfl
      have hstep := ih (s.perform op)
      rw [perform_epoch, toNat_advanceEpoch, hcount, Nat.mod_add_mod, Nat.add_assoc,
        ← List.length_append] at hstep
      exact hstep

/-! ### The frozen shape -/

/-- Nothing but a release gets at a frozen shape, and the release leaves it as it is. -/
theorem perform_frozen (h : s.frozen = true) (op : Operation) :
    (s.perform op).shape = s.shape ∧ (op ≠ .release → (s.perform op).frozen = true) := by
  cases op with
  | write command =>
      cases hrun : command.run s with
      | ok s' =>
          rw [perform_write_of_ok hrun]
          exact ⟨Command.run_shape_of_frozen hrun h, fun _ => (Command.run_frozen hrun).trans h⟩
      | error refusal =>
          rw [perform_write_of_error hrun]
          exact ⟨rfl, fun _ => h⟩
  | get query => exact ⟨rfl, fun _ => h⟩
  | freeze => exact ⟨rfl, fun _ => rfl⟩
  | release => exact ⟨rfl, fun hne => absurd rfl hne⟩

theorem performAll_frozen (h : s.frozen = true) {operations : List Operation}
    (hrelease : .release ∉ operations) : (s.performAll operations).shape = s.shape := by
  induction operations generalizing s with
  | nil => rfl
  | cons op operations ih =>
      obtain ⟨hop, hrest⟩ := List.ne_and_not_mem_of_not_mem_cons hrelease
      obtain ⟨hshape, hfrozen⟩ := perform_frozen h op
      exact (ih (hfrozen hop.symm) hrest).trans hshape

end Store

/-! ### Answers -/

theorem isNumber_numberAnswer {x : Float} (h : x.isFinite = true) : IsNumber (numberAnswer x) := by
  unfold numberAnswer
  split
  · trivial
  · rw [if_pos h]
    exact h

theorem isNumberRow_rowAnswer {row : Row} (h : ∀ x ∈ row, x.isFinite = true) :
    IsNumberRow (rowAnswer row) := by
  refine ⟨by simp [channelCount], fun item hitem => ?_⟩
  obtain ⟨x, hx, rfl⟩ := List.mem_map.mp hitem
  exact isNumber_numberAnswer (h x (Vector.mem_toList_iff.mp hx))

/-- Usable values are reported as numbers. -/
theorem Snapshot.Usable.reports {s : Snapshot} (h : s.Usable) (shape : Shape) (key : Key) :
    s.Reports (key.answer s shape) key := by
  cases key with
  | offset => exact isNumberRow_rowAnswer h.offsets
  | gain =>
      simp only [Reports, Key.answer]
      cases hgains : s.gains with
      | none => rfl
      | some row => exact isNumberRow_rowAnswer fun x hx => (h.gains row hgains x hx).1
  | transmission =>
      simp only [Reports, Key.answer]
      cases htransmissions : s.transmissions with
      | none => rfl
      | some row =>
          exact isNumberRow_rowAnswer fun x hx => (h.transmissions row htransmissions x hx).1
  | bridge => trivial
  | sampleRate => trivial
  | burstSize => trivial
  | settlingTicks => trivial
  | queueCapacity => trivial
  | channels => trivial

namespace Store

variable {s s' : Store}

theorem answers_of_usable (h : s.snapshot.Usable) (d : Document) :
    s.Answers (d.answer s.snapshot s.shape) := by
  intro name value hmem key hkey
  obtain ⟨entry, -, heq⟩ := List.mem_map.mp hmem
  cases heq
  rw [answerFor, hkey]
  exact h.reports s.shape key

theorem get_answers (h : s.snapshot.Usable) {query : Json} {answer : Document}
    (hget : s.get query = .ok answer) : s.Answers answer := by
  obtain ⟨d, -, heq⟩ := bind_eq_ok.mp hget
  cases heq
  exact answers_of_usable h d

/-- What an accepted document is answered with is what the store holds afterwards. -/
theorem apply_answers (h : s.snapshot.Usable) {document : Json} {answer : Document}
    (happly : s.apply document = .ok (s', answer)) : s'.Answers answer := by
  have hrun : Command.run s (.apply document) = .ok s' := by
    simp only [Command.run, happly, Except.map]
  have husable : s'.snapshot.Usable := by
    rw [← perform_write_of_ok hrun]
    exact perform_usable h _
  obtain ⟨d, -, happly⟩ := bind_eq_ok.mp happly
  obtain ⟨batch, -, happly⟩ := bind_eq_ok.mp happly
  obtain ⟨s'', -, heq⟩ := bind_eq_ok.mp happly
  cases heq
  exact answers_of_usable husable d

theorem ofShape_usable (shape : Shape) : (ofShape shape).snapshot.Usable := by
  refine ⟨fun x hx => ?_, by rintro _ ⟨⟩, by rintro _ ⟨⟩⟩
  rw [show (ofShape shape).snapshot.offsets = Vector.replicate 4 0.0 from rfl] at hx
  rw [Vector.eq_of_mem_replicate hx]
  decide

theorem performAll_usable (shape : Shape) (operations : List Operation) :
    ((ofShape shape).performAll operations).snapshot.Usable :=
  performAll_preserves (P := fun s => s.snapshot.Usable) (fun _ op h => perform_usable h op)
    (ofShape_usable shape) operations

/-- **What holds of every store**, whatever was done to it since it was new. -/
theorem performAll_lawful (shape : Shape) (operations : List Operation) :
    let s := (ofShape shape).performAll operations
    s.snapshot.Usable ∧
    (ofShape shape).Extends s ∧
    s.snapshot.bridgeEpoch.toNat = ((ofShape shape).selections operations).length % 2 ^ 64 ∧
    (∀ more, s.Extends (s.performAll more) ∧
      (s.frozen = true → .release ∉ more → (s.performAll more).shape = s.shape)) ∧
    (∀ query answer, s.get query = .ok answer → s.Answers answer) ∧
    ∀ document s' answer, s.apply document = .ok (s', answer) → s'.Answers answer := by
  intro s
  have husable : s.snapshot.Usable := performAll_usable shape operations
  refine ⟨husable, extends_performAll _ operations, ?_, fun more => ?_,
    fun query answer => get_answers husable, fun document s' answer => apply_answers husable⟩
  · have hepoch := (ofShape shape).performAll_epoch operations
    rw [show (ofShape shape).snapshot.bridgeEpoch.toNat = 0 from rfl, Nat.zero_add] at hepoch
    exact hepoch
  · exact ⟨s.extends_performAll more, fun hfrozen => performAll_frozen hfrozen⟩

end Store

end QuadDaq.Settings

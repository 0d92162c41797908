import QuadDaq.Proofs.Settings.Invariants

/-!
# Settings committed while others read

**A query reads the store twice**, first the snapshot and then the shape, and other threads can
commit settings in between. `getAmid` is a query amid such commits; with none of them it is the
query itself (`getAmid_nil`).

**A query that needs only one of the two is answered as a single store would**: as the earlier
one, if it asks for nothing of the shape (`getAmid_of_snapshot`), and as the later one, if it asks
for nothing else (`getAmid_of_shape`). While the shape is frozen every query is answered as the
earlier store would (`getAmid_of_frozen`). Otherwise a document that writes both parts can be seen
by half (`half_seen`).
-/

namespace QuadDaq.Settings

namespace Store

/-! ### Commits while the shape is frozen -/

variable {s s' : Store}

/-- The store after these writes. -/
def writeAll (s : Store) (commands : List Command) : Store :=
  s.performAll (commands.map .write)

/-- Writes leave a frozen shape as it is, and frozen. -/
theorem writeAll_frozen (h : s.frozen = true) (commands : List Command) :
    (s.writeAll commands).shape = s.shape ∧ (s.writeAll commands).frozen = true := by
  induction commands generalizing s with
  | nil => exact ⟨rfl, h⟩
  | cons command rest ih =>
      obtain ⟨hshape, hfrozen⟩ := perform_frozen h (.write command)
      obtain ⟨hshape', hfrozen'⟩ := ih (hfrozen (by simp))
      exact ⟨hshape'.trans hshape, hfrozen'⟩

theorem freeze_of_frozen (h : s.frozen = true) : s.freeze = s := by
  rw [freeze, ← h]

theorem foldl_assign_frozen (s : Store) (batch : List Assignment) (frozen : Bool) :
    batch.foldl assign { s with frozen := frozen } =
      { batch.foldl assign s with frozen := frozen } := by
  induction batch generalizing s with
  | nil => rfl
  | cons a rest ih => exact ih (s.assign a)

/-- What is accepted while the shape is frozen is accepted at any time, and does the same. -/
theorem run_of_freeze {command : Command} (h : command.run s.freeze = .ok s') :
    command.run s = .ok { s' with frozen := s.frozen } := by
  obtain ⟨batch, hbatch, -, hshape, rfl⟩ := Command.run_inv h
  rw [Command.run_eq, hbatch]
  refine commit_eq_ok_iff.mpr ⟨fun _ => hshape rfl, ?_⟩
  rw [← foldl_assign_frozen]
  rfl

/-! ### Queries amid commits -/

/-- A query with settings committed between its two reads of the store. -/
def getAmid (s : Store) (commits : List Command) (query : Json) : Except Refusal Document := do
  let d ← Document.ofJson query
  return d.answer s.snapshot (s.writeAll commits).shape

variable {commits : List Command} {query : Json}

theorem getAmid_nil (s : Store) (query : Json) : s.getAmid [] query = s.get query := rfl

theorem getAmid_of_frozen (h : s.frozen = true) : s.getAmid commits query = s.get query := by
  rw [getAmid, (writeAll_frozen h commits).1]
  rfl

end Store

/-- The setting is reported from the shape. -/
def Key.OfShape : Key → Prop
  | .sampleRate | .burstSize | .settlingTicks | .queueCapacity => True
  | .bridge | .offset | .gain | .transmission | .channels => False

/-- A document is answered alike from two states that agree in what it names. -/
theorem Document.answer_congr {d : Document} {snapshot snapshot' : Snapshot} {shape shape' : Shape}
    (h : ∀ e ∈ d, ∀ key, Key.ofName? e.1 = some key →
      key.answer snapshot shape = key.answer snapshot' shape') :
    d.answer snapshot shape = d.answer snapshot' shape' := by
  refine List.map_congr_left fun e he => congrArg (Prod.mk e.1) ?_
  unfold answerFor
  cases hkey : Key.ofName? e.1 with
  | none => rfl
  | some key => exact h e he key hkey

namespace Store

variable {s : Store} {commits : List Command} {entries : List (String × Json)}

/-- What is not of the shape is told as it was before the commits. -/
theorem getAmid_of_snapshot
    (h : ∀ e ∈ Document.ofEntries entries, ∀ key, Key.ofName? e.1 = some key → ¬ key.OfShape) :
    s.getAmid commits (.obj entries) = s.get (.obj entries) := by
  refine congrArg Except.ok (Document.answer_congr fun e he key hkey => ?_)
  have hsnapshot := h e he key hkey
  cases key <;> first | rfl | exact absurd trivial hsnapshot

/-- What is of the shape is told as it is after them. -/
theorem getAmid_of_shape
    (h : ∀ e ∈ Document.ofEntries entries, ∀ key, Key.ofName? e.1 = some key → key.OfShape) :
    s.getAmid commits (.obj entries) = (s.writeAll commits).get (.obj entries) := by
  refine congrArg Except.ok (Document.answer_congr fun e he key hkey => ?_)
  have hshape := h e he key hkey
  cases key <;> first | rfl | exact hshape.elim

/-- A document that selects the bridge and sets the rate. -/
def rewiring : Command := .apply (.obj [("Bridge", .int 1), ("SampleRate", .int 500)])

/-- A query amid this document combines the bridge from before it with the rate from after it.
Neither the store before nor the one after gives that answer. -/
theorem half_seen :
    let s := ofShape ⟨1000, 100, 50, 8⟩
    let query : Json := .obj [("Bridge", .str "?"), ("SampleRate", .str "?")]
    s.getAmid [rewiring] query = .ok [("Bridge", .int 0), ("SampleRate", .int 500)] ∧
      s.get query = .ok [("Bridge", .int 0), ("SampleRate", .int 1000)] ∧
      (s.writeAll [rewiring]).get query = .ok [("Bridge", .int 1), ("SampleRate", .int 500)] :=
  ⟨rfl, rfl, rfl⟩

end Store

end QuadDaq.Settings

import QuadDaq.Queue

/-!
# Lemmas on bounded queues

What the operations do to the waiting elements. A push onto a full queue evicts the
element at its head, and there always is one.

**Nothing is lost or overtaken.** Whatever is done to a queue, the elements that left it, in
the order in which they left, and then those that wait are the pushed elements in the order of
the pushes (`left_append_items`).
-/

namespace QuadDaq.DropOldest

variable {α : Type}

@[simp] theorem ofCapacity_items (n : Nat) : (ofCapacity n : DropOldest α).items = [] := rfl

@[simp] theorem pop_items (q : DropOldest α) : q.pop.1.items = q.items.tail := rfl

@[simp] theorem push_capacity (q : DropOldest α) (a : α) :
    (q.push a).1.capacity = q.capacity := by
  unfold push
  split <;> rfl

/-- A push finds room, or evicts the head of a full queue. -/
theorem push_cases (q : DropOldest α) (a : α) :
    (q.items.length < q.capacity ∧ (q.push a).2 = none ∧
      (q.push a).1.items = q.items ++ [a]) ∨
    ∃ oldest rest, q.items = oldest :: rest ∧ q.items.length = q.capacity ∧
      (q.push a).2 = some oldest ∧ (q.push a).1.items = rest ++ [a] := by
  by_cases hroom : q.items.length < q.capacity
  · left
    refine ⟨hroom, ?_, ?_⟩
    · simp only [push, dif_pos hroom]
    · simp only [push, dif_pos hroom]
  · right
    simp only [push, dif_neg hroom]
    cases hitems : q.items with
    | nil =>
        rw [hitems] at hroom
        exact absurd q.capacity_pos hroom
    | cons oldest rest =>
        refine ⟨oldest, rest, rfl, ?_, rfl, rfl⟩
        have hle := q.length_le
        rw [hitems] at hle hroom
        omega

/-! ### Sequences of operations -/

/-- What can be done to a queue. -/
inductive Operation (α : Type)
  | push (a : α)
  | pop
  | clear

/-- The queue after an operation. -/
def perform (q : DropOldest α) : Operation α → DropOldest α
  | .push a => (q.push a).1
  | .pop => q.pop.1
  | .clear => q.clear.1

/-- The queue after a sequence of operations. -/
def performAll (q : DropOldest α) (operations : List (Operation α)) : DropOldest α :=
  operations.foldl perform q

/-- Pops so many times. The elements come in the order in which they were popped. -/
def popMany (q : DropOldest α) : Nat → DropOldest α × List α
  | 0 => (q, [])
  | n + 1 =>
    let (q, a?) := q.pop
    let (q, later) := q.popMany n
    (q, a?.toList ++ later)

/-- The elements that leave the queue with an operation, in the order in which they leave. A
clear takes as many as it says, one after the other. -/
def leaving (q : DropOldest α) : Operation α → List α
  | .push a => (q.push a).2.toList
  | .pop => q.pop.2.toList
  | .clear => (q.popMany q.clear.2).2

/-- The elements that leave the queue in the course of a sequence of operations. -/
def left (q : DropOldest α) : List (Operation α) → List α
  | [] => []
  | op :: operations => q.leaving op ++ (q.perform op).left operations

/-- The element that an operation pushes. -/
def Operation.pushed? : Operation α → Option α
  | push a => some a
  | pop | clear => none

/-- The elements that are pushed in the course of a sequence of operations. -/
def pushed (operations : List (Operation α)) : List α := operations.filterMap Operation.pushed?

/-- As many pops as elements wait take all of them, the oldest first. -/
theorem popMany_size (q : DropOldest α) :
    (q.popMany q.size).2 = q.items ∧ (q.popMany q.size).1.items = [] := by
  obtain ⟨capacity, items, hpos, hle⟩ := q
  induction items with
  | nil => exact ⟨rfl, rfl⟩
  | cons a rest ih =>
      obtain ⟨htaken, hleft⟩ := ih (Nat.le_of_succ_le hle)
      exact ⟨congrArg (a :: ·) htaken, hleft⟩

theorem popMany_capacity (q : DropOldest α) (n : Nat) : (q.popMany n).1.capacity = q.capacity := by
  induction n generalizing q with
  | zero => rfl
  | succ n ih => exact ih q.pop.1

/-- The first pop that finds nothing comes after one for each element. -/
theorem popWhile_eq {q : DropOldest α} {pops : Nat} (h : q.size < pops) :
    q.popWhile pops = ((q.popMany q.size).1, q.size) := by
  obtain ⟨capacity, items, hpos, hle⟩ := q
  induction items generalizing pops with
  | nil =>
      obtain ⟨pops, rfl⟩ := Nat.exists_eq_succ_of_ne_zero (Nat.ne_zero_of_lt h)
      rfl
  | cons a rest ih =>
      obtain ⟨pops, rfl⟩ := Nat.exists_eq_succ_of_ne_zero (Nat.ne_zero_of_lt h)
      have hrest := ih (Nat.le_of_succ_le hle) (Nat.lt_of_succ_lt_succ h)
      exact congrArg (fun r : DropOldest α × Nat => (r.1, r.2 + 1)) hrest

theorem clear_eq (q : DropOldest α) : q.clear = ((q.popMany q.size).1, q.size) :=
  popWhile_eq (Nat.lt_succ_self q.size)

@[simp] theorem clear_items (q : DropOldest α) : q.clear.1.items = [] := by
  rw [clear_eq]
  exact q.popMany_size.2

/-- What leaves with an operation was the oldest, and what is pushed becomes the newest. -/
theorem leaving_append_items (q : DropOldest α) (op : Operation α) :
    q.leaving op ++ (q.perform op).items = q.items ++ op.pushed?.toList := by
  cases op with
  | push a =>
      rcases q.push_cases a with ⟨-, hout, hitems⟩ | ⟨oldest, rest, hq, -, hout, hitems⟩
      · simp [leaving, perform, Operation.pushed?, hout, hitems]
      · simp [leaving, perform, Operation.pushed?, hout, hitems, hq]
  | pop =>
      simp only [leaving, perform, Operation.pushed?, pop, Option.toList_none, List.append_nil]
      cases q.items <;> rfl
  | clear =>
      simp only [leaving, perform, clear_items]
      rw [clear_eq, q.popMany_size.1]
      rfl

/-- What left a queue and what waits in it are what waited at first and what was pushed. -/
theorem left_append_items (q : DropOldest α) (operations : List (Operation α)) :
    q.left operations ++ (q.performAll operations).items = q.items ++ pushed operations := by
  induction operations generalizing q with
  | nil => simp [left, performAll, pushed]
  | cons op operations ih =>
      calc q.left (op :: operations) ++ (q.performAll (op :: operations)).items
        _ = q.leaving op ++ ((q.perform op).left operations
              ++ ((q.perform op).performAll operations).items) := List.append_assoc ..
        _ = q.leaving op ++ (q.perform op).items ++ pushed operations := by
          rw [ih, List.append_assoc]
        _ = q.items ++ pushed (op :: operations) := by
          rw [leaving_append_items, List.append_assoc, pushed, pushed]
          cases hpushed : op.pushed? <;> simp [hpushed]

/-- No operation changes the capacity. -/
theorem performAll_capacity (q : DropOldest α) (operations : List (Operation α)) :
    (q.performAll operations).capacity = q.capacity := by
  induction operations generalizing q with
  | nil => rfl
  | cons op operations ih =>
      refine (ih (q.perform op)).trans ?_
      cases op with
      | push a => exact q.push_capacity a
      | pop => rfl
      | clear =>
          rw [perform, clear_eq]
          exact q.popMany_capacity q.size

/-- A push evicts if the queue is full, and then the oldest element. -/
theorem push_evicted (q : DropOldest α) (a : α) :
    ((q.push a).2.isSome = true ↔ q.size = q.capacity) ∧
      ∀ oldest, (q.push a).2 = some oldest → q.items.head? = some oldest := by
  rcases q.push_cases a with ⟨hroom, hout, -⟩ | ⟨oldest, rest, hitems, hfull, hout, -⟩
  · have hsize : q.size ≠ q.capacity := Nat.ne_of_lt hroom
    simp [hout, hsize]
  · have hsize : q.size = q.capacity := hfull
    simp [hout, hsize, hitems]

/-- **The elements of a bounded queue keep their order, and none of them is lost**, whatever is
done to it since it was new. -/
theorem elements_conserved (n : Nat) (operations : List (Operation α)) :
    let q : DropOldest α := (ofCapacity n).performAll operations
    (ofCapacity n).left operations ++ q.items = pushed operations ∧
    q.size ≤ max n 1 ∧
    (∀ a, ((q.push a).2.isSome = true ↔ q.size = max n 1) ∧
      ∀ oldest, (q.push a).2 = some oldest → q.items.head? = some oldest) ∧
    (q.pop.2 = q.items.head? ∧ (q.pop.2 = none ↔ q.size = 0)) ∧
    q.popMany q.clear.2 = (q.clear.1, q.items) ∧ q.clear.2 = q.size ∧ q.clear.1.size = 0 := by
  intro q
  have hcapacity : q.capacity = max n 1 := performAll_capacity _ operations
  refine ⟨(ofCapacity n).left_append_items operations, hcapacity ▸ q.length_le,
    fun a => hcapacity ▸ q.push_evicted a, ⟨rfl, ?_⟩, ?_, ?_, ?_⟩
  · rw [size, List.length_eq_zero_iff]
    exact List.head?_eq_none_iff
  · rw [clear_eq]
    exact Prod.ext rfl q.popMany_size.1
  · rw [clear_eq]
  · exact congrArg List.length q.clear_items

end QuadDaq.DropOldest

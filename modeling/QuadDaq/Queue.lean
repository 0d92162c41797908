/-!
# Bounded queues that drop their oldest element

A queue of fixed capacity for a producer that must never wait: pushing onto a full
queue **evicts the oldest element** to make room, and hands it back so that the
loss can be reported.
-/

namespace QuadDaq

/-- A bounded queue, oldest element first. -/
structure DropOldest (α : Type) where
  capacity : Nat
  items : List α
  capacity_pos : 0 < capacity
  length_le : items.length ≤ capacity

namespace DropOldest

variable {α : Type}

/-- An empty queue. A capacity of zero is raised to one. -/
def ofCapacity (n : Nat) : DropOldest α where
  capacity := max n 1
  items := []
  capacity_pos := by omega
  length_le := by simp

/-- Number of waiting elements. -/
def size (q : DropOldest α) : Nat := q.items.length

/-- Nothing waits. -/
def isEmpty (q : DropOldest α) : Bool := q.items.isEmpty

theorem length_append_le {items : List α} {n : Nat} {a : α} (h : items.length < n) :
    (items ++ [a]).length ≤ n := by
  rw [List.length_append]
  exact h

theorem length_tail_append_le (q : DropOldest α) (a : α) :
    (q.items.tail ++ [a]).length ≤ q.capacity := by
  have hpos := q.capacity_pos
  have hle := q.length_le
  rw [List.length_append, List.length_tail, List.length_singleton]
  omega

/-- Adds an element at the end, and gives the one that was evicted for it. -/
def push (q : DropOldest α) (a : α) : DropOldest α × Option α :=
  if h : q.items.length < q.capacity then
    ({ q with items := q.items ++ [a], length_le := length_append_le h }, none)
  else
    ({ q with items := q.items.tail ++ [a], length_le := q.length_tail_append_le a },
      q.items.head?)

/-- Takes the oldest element. -/
def pop (q : DropOldest α) : DropOldest α × Option α :=
  ({ q with items := q.items.tail, length_le := by have := q.length_le; simp; omega },
    q.items.head?)

/-- Pops until nothing comes, so many times at most, and counts the elements. -/
def popWhile (q : DropOldest α) : Nat → DropOldest α × Nat
  | 0 => (q, 0)
  | pops + 1 =>
    match q.pop with
    | (rest, some _) =>
      let (rest, n) := rest.popWhile pops
      (rest, n + 1)
    | (rest, none) => (rest, 0)

/-- Removes everything, and gives the number of removed elements. One pop more than
there are elements finds nothing. -/
def clear (q : DropOldest α) : DropOldest α × Nat := q.popWhile (q.size + 1)

end DropOldest

end QuadDaq

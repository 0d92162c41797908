import Mathlib.Data.List.Induction
import QuadDaq.Proofs.Stream.Blocks
import QuadDaq.Proofs.Stream.Tally

/-!
# How far apart batches are

**Between the first ticks of two batches of a stream are the rows of the batches from the one
to the other, and the ticks without a row.** The first row of the batch at index `i` is the
row at index `i * batchRows` of all rows, so exactly that many ticks before it brought one
(`Yields.batch_at`).
-/

namespace QuadDaq

/-- The number of ticks without a row from tick `a` up to tick `b`. -/
def rowless (records : List TickRecord) (a b : Nat) : Nat :=
  ((records.take b).drop a).countP fun r => !r.result.isRow

/-! ### Rows and their ticks -/

theorem TickResult.isSome_row? (result : TickResult) : result.row?.isSome = result.isRow := by
  cases result <;> rfl

theorem length_rowsOf (records : List TickRecord) :
    (rowsOf records).length = records.countP (·.result.isRow) := by
  induction records using List.reverseRecOn with
  | nil => rfl
  | append_singleton records r ih =>
      rw [rowsOf_append_singleton, List.length_append, ih, List.countP_append, List.countP_singleton,
        ← TickResult.isSome_row?]
      cases r.result.row? <;> rfl

/-- Before the tick of the row at index `m` there are `m` ticks with rows. -/
theorem countP_take_of_rowsOf {records : List TickRecord} {m t : Nat} {row : Row}
    (h : (rowsOf records)[m]? = some (t, row)) :
    t < records.length ∧ (records.take t).countP (·.result.isRow) = m := by
  induction records using List.reverseRecOn with
  | nil => simp [rowsOf] at h
  | append_singleton records r ih =>
      rw [rowsOf_append_singleton] at h
      rw [List.length_append, List.length_singleton]
      rcases Nat.lt_or_ge m (rowsOf records).length with hlt | hge
      · rw [List.getElem?_append_left hlt] at h
        obtain ⟨ht, hcount⟩ := ih h
        rw [List.take_append_of_le_length (Nat.le_of_lt ht)]
        exact ⟨Nat.lt_succ_of_lt ht, hcount⟩
      · rw [List.getElem?_append_right hge] at h
        cases hrow : r.result.row? with
        | none => simp [hrow] at h
        | some row' =>
            rw [hrow, Option.map_some, Option.toList_some, List.getElem?_singleton] at h
            split at h
            · next hzero =>
                obtain ⟨rfl, -⟩ := Prod.mk.inj (Option.some.inj h)
                rw [List.take_left, ← length_rowsOf]
                exact ⟨Nat.lt_succ_self _, by omega⟩
            · cases h

/-- The block at index `i` begins at `i` times the length of a block. -/
theorem getElem?_flatten_mul {α : Type} {n : Nat} (blocks : List (List α)) (hn : 0 < n)
    (hfull : ∀ block ∈ blocks, block.length = n) :
    ∀ {i : Nat} {block : List α}, blocks[i]? = some block →
      blocks.flatten[i * n]? = block[0]? := by
  induction blocks with
  | nil => simp
  | cons first blocks ih =>
      intro i block hblock
      have hfirst : first.length = n := hfull first List.mem_cons_self
      rw [List.flatten_cons]
      cases i with
      | zero =>
          obtain rfl : first = block := Option.some.inj hblock
          rw [Nat.zero_mul, List.getElem?_append_left (by omega)]
      | succ i =>
          rw [Nat.succ_mul, List.getElem?_append_right (by omega), hfirst, Nat.add_sub_cancel]
          exact ih (fun b hb => hfull b (List.mem_cons_of_mem _ hb)) hblock

/-! ### Batches and their ticks -/

namespace Sampler.Yields

variable {plan : StreamPlan} {initial : UInt64} {fitted : Bool} {records : List TickRecord}
  {batches : List Batch} {s : Sampler}

/-- The batch at an index is full, and before its first tick there are the rows of all
batches before it. -/
theorem batch_at (hrows : 0 < plan.batchRows)
    (h : Yields fitted (.start plan initial) records batches s) {i : Nat} {b : Batch}
    (hb : batches[i]? = some b) :
    b.size = plan.batchRows ∧ b.firstTick < records.length ∧
      (records.take b.firstTick).countP (·.result.isRow) = i * plan.batchRows := by
  obtain ⟨blocks, rest, hcollects, -, rfl⟩ := h.collects
  have hmax : max plan.batchRows 1 = plan.batchRows := by omega
  rw [hmax] at hcollects
  rw [List.getElem?_map, Option.map_eq_some_iff] at hb
  obtain ⟨block, hblock, rfl⟩ := hb
  have hfull := hcollects.full block (List.mem_of_getElem? hblock)
  have hhead := getElem?_flatten_mul blocks hrows hcollects.full hblock
  cases block with
  | nil => simp at hfull; omega
  | cons p block =>
      obtain ⟨t, row⟩ := p
      rw [List.getElem?_cons_zero] at hhead
      have hrow : (rowsOf records)[i * plan.batchRows]? = some (t, row) := by
        rw [hcollects.rows, List.getElem?_append_left (List.getElem?_eq_some_iff.mp hhead).1, hhead]
      refine ⟨?_, countP_take_of_rowsOf hrow⟩
      rw [← hfull]
      simp [Batch.ofBlock, Batch.size]

/-- A later batch begins later. -/
theorem firstTick_lt (hrows : 0 < plan.batchRows)
    (h : Yields fitted (.start plan initial) records batches s) {i j : Nat} {x y : Batch}
    (hx : batches[i]? = some x) (hy : batches[j]? = some y) (hij : i < j) :
    x.firstTick < y.firstTick := by
  obtain ⟨-, -, hbefore⟩ := h.batch_at hrows hx
  obtain ⟨-, -, hbefore'⟩ := h.batch_at hrows hy
  -- Otherwise no more rows would come before the later batch than before the earlier one.
  by_contra hge
  have hle := (List.take_sublist_take_left (l := records) (Nat.le_of_not_lt hge)).countP_le
    (p := (·.result.isRow))
  rw [hbefore, hbefore'] at hle
  exact absurd (Nat.le_of_mul_le_mul_right hle hrows) (Nat.not_le_of_lt hij)

/-- From the first tick of a batch to that of a later one there are the rows of the batch
itself, those of the `n` batches between, and the ticks without a row. -/
theorem spacing (hrows : 0 < plan.batchRows)
    (h : Yields fitted (.start plan initial) records batches s) {i n : Nat} {x y : Batch}
    (hx : batches[i]? = some x) (hy : batches[i + 1 + n]? = some y) :
    y.firstTick = x.firstTick + x.size + n * plan.batchRows +
      rowless records x.firstTick y.firstTick := by
  obtain ⟨hsize, -, hbefore⟩ := h.batch_at hrows hx
  obtain ⟨-, hlt, hbefore'⟩ := h.batch_at hrows hy
  have hle : x.firstTick ≤ y.firstTick := Nat.le_of_lt (h.firstTick_lt hrows hx hy (by omega))
  have hsplit : (records.take y.firstTick).countP (·.result.isRow) =
      (records.take x.firstTick).countP (·.result.isRow) +
        ((records.take y.firstTick).drop x.firstTick).countP (·.result.isRow) := by
    rw [← List.countP_append]
    conv_lhs => rw [← List.take_append_drop x.firstTick (records.take y.firstTick)]
    rw [List.take_take, Nat.min_eq_left hle]
  -- Ticks with a row and ticks without one make up all ticks between.
  have hticks := List.length_eq_countP_add_countP (·.result.isRow)
    (l := (records.take y.firstTick).drop x.firstTick)
  rw [List.length_drop, List.length_take_of_le (Nat.le_of_lt hlt)] at hticks
  rw [hbefore, hbefore', Nat.add_mul, Nat.add_mul, Nat.one_mul] at hsplit
  have hnone : rowless records x.firstTick y.firstTick =
      ((records.take y.firstTick).drop x.firstTick).countP fun r => ¬(r.result.isRow) = true := by
    simp [rowless]
  omega

end Sampler.Yields

end QuadDaq

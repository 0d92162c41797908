import Mathlib.Data.List.Basic
import QuadDaq.Proofs.Stream.Guard

/-!
# Batches are blocks of rows

**The batches of a stream, defined without a sampler**: take the rows that the ticks
contribute, in tick order, and cut them into full blocks (`referenceBatches`). The
rows of an incomplete block are left over and belong to no batch.

The sampler keeps the incomplete block and its first tick. `Collects` says that what it
keeps is the remainder of the rows so far; with `fullBlocks_eq` this determines all
batches.
-/

namespace QuadDaq

/-! ### Full blocks -/

/-- The consecutive blocks of `n` elements, without an incomplete one at the end. -/
def fullBlocks {α : Type} (n : Nat) (xs : List α) : List (List α) :=
  (List.range (xs.length / n)).map fun i => (xs.drop (i * n)).take n

section FullBlocks

variable {α : Type} {n : Nat}

theorem fullBlocks_of_lt {xs : List α} (h : xs.length < n) : fullBlocks n xs = [] := by
  rw [fullBlocks, Nat.div_eq_of_lt h, List.range_zero, List.map_nil]

theorem fullBlocks_append (hn : 0 < n) {block : List α} (h : block.length = n) (xs : List α) :
    fullBlocks n (block ++ xs) = block :: fullBlocks n xs := by
  have hcount : (block ++ xs).length / n = xs.length / n + 1 := by
    rw [List.length_append, h, Nat.add_div_left _ hn]
  rw [fullBlocks, hcount, List.range_succ_eq_map, List.map_cons, List.map_map]
  refine congrArg₂ List.cons ?_ (List.map_congr_left fun i _ => ?_)
  · rw [Nat.zero_mul, List.drop_zero, ← h, List.take_left]
  · rw [Function.comp_apply, Nat.succ_mul, Nat.add_comm, ← List.drop_drop, ← h, List.drop_left]

/-- However a list is made of blocks of `n` and of a shorter rest, these are its full
blocks. -/
theorem fullBlocks_eq {blocks : List (List α)} {rest : List α}
    (hfull : ∀ block ∈ blocks, block.length = n) (hrest : rest.length < n) :
    fullBlocks n (blocks.flatten ++ rest) = blocks := by
  induction blocks with
  | nil => exact fullBlocks_of_lt hrest
  | cons block blocks ih =>
      rw [List.flatten_cons, List.append_assoc,
        fullBlocks_append (by omega) (hfull block List.mem_cons_self),
        ih fun b hb => hfull b (List.mem_cons_of_mem _ hb)]

theorem of_mem_fullBlocks {xs block : List α} (h : block ∈ fullBlocks n xs) :
    block.length = n ∧ block.Sublist xs := by
  obtain ⟨i, hi, rfl⟩ := List.mem_map.mp h
  refine ⟨?_, (List.take_sublist n _).trans (List.drop_sublist (i * n) xs)⟩
  have hle : (i + 1) * n ≤ xs.length :=
    Nat.le_trans (Nat.mul_le_mul_right n (List.mem_range.mp hi)) (Nat.div_mul_le_self _ _)
  rw [List.length_take, List.length_drop]
  rw [Nat.succ_mul] at hle
  omega

example : fullBlocks 2 [3, 1, 4, 1, 5] = [[3, 1], [4, 1]] := by decide

end FullBlocks

/-! ### Rows that ticks contribute -/

/-- What a tick is given: the snapshot at its beginning and the end of its read. -/
structure TickInput where
  snapshot : Settings.Snapshot
  outcome : ReadOutcome

/-- What a tick was given. -/
def TickRecord.input (r : TickRecord) : TickInput := ⟨r.snapshot, r.outcome⟩

namespace TickInput

/-- The epoch that the tick sees. -/
def epoch (i : TickInput) : UInt64 := i.snapshot.bridgeEpoch

/-- The row of the tick, corrected with its own snapshot, if the read succeeds and the
calibration is complete. -/
def physical? (i : TickInput) : Option Row :=
  match i.outcome, i.snapshot.gains, i.snapshot.transmissions with
  | .row raw, some gains, some transmissions =>
    some (Vector.ofFn fun ch =>
      corrected (raw.get ch) (i.snapshot.offsets.get ch) (gains.get ch) (transmissions.get ch))
  | _, _, _ => none

/-- The sampler calibrates as the physical row asks: with the same two parts, and no others. -/
theorem physical?_of_row (i : TickInput) {raw : Row} (h : i.outcome = .row raw) :
    i.physical? = (i.snapshot.calibrate raw).toOption := by
  rw [physical?, h, Settings.Snapshot.calibrate]
  cases i.snapshot.gains <;> cases i.snapshot.transmissions <;> rfl

end TickInput

/-- The contributed rows with their ticks: those of all ticks outside of every window. -/
def contributions (plan : StreamPlan) (initial : UInt64) (inputs : List TickInput) :
    List (Nat × Row) :=
  (List.range inputs.length).filterMap fun t =>
    if InWindow plan initial (inputs.map TickInput.epoch) t then none
    else (inputs[t]?.bind TickInput.physical?).map (t, ·)

/-- The batch that a block of rows with their ticks becomes. -/
def Batch.ofBlock (block : List (Nat × Row)) : Batch where
  firstTick := (block.head?.map Prod.fst).getD 0
  rows := (block.map Prod.snd).toArray

/-- The batches of a stream whose ticks are given these. -/
def referenceBatches (plan : StreamPlan) (initial : UInt64) (inputs : List TickInput) :
    List Batch :=
  (fullBlocks plan.batchRows (contributions plan initial inputs)).map Batch.ofBlock

/-- The row that a tick brought. -/
def TickResult.row? : TickResult → Option Row
  | .row r => some r
  | _ => none

/-- The rows that the ticks brought, with their ticks. -/
def rowsOf (records : List TickRecord) : List (Nat × Row) :=
  records.zipIdx.filterMap fun p => p.1.result.row?.map (p.2, ·)

theorem rowsOf_append_singleton (records : List TickRecord) (r : TickRecord) :
    rowsOf (records ++ [r]) =
      rowsOf records ++ (r.result.row?.map (records.length, ·)).toList := by
  rw [rowsOf, List.zipIdx_append, List.filterMap_append, ← rowsOf]
  cases h : r.result.row? <;> simp [h]

theorem contributions_append_singleton (plan : StreamPlan) (initial : UInt64)
    (inputs : List TickInput) (i : TickInput) :
    contributions plan initial (inputs ++ [i]) = contributions plan initial inputs ++
      (if InWindow plan initial (inputs.map TickInput.epoch ++ [i.epoch]) inputs.length then none
        else i.physical?.map (inputs.length, ·)).toList := by
  rw [contributions, List.length_append, List.length_singleton, List.range_succ,
    List.filterMap_append, List.map_append]
  refine congrArg₂ (· ++ ·) (List.filterMap_congr fun t ht => ?_) ?_
  · have hlt : t < inputs.length := List.mem_range.mp ht
    have hlt' : t < (inputs.map TickInput.epoch).length := by rwa [List.length_map]
    simp only [inWindow_append hlt', List.getElem?_append_left hlt]
  · simp only [List.filterMap_cons, List.filterMap_nil, List.getElem?_concat_length,
      Option.bind_some, List.map_cons, List.map_nil]
    cases (if InWindow plan initial (inputs.map TickInput.epoch ++ [i.epoch]) inputs.length
        then none else i.physical?.map (inputs.length, ·)) <;> rfl

/-- Ticks without a physical row, such as the one that crashes, contribute nothing. -/
theorem contributions_append_of_none (plan : StreamPlan) (initial : UInt64)
    (inputs : List TickInput) {more : List TickInput}
    (hnone : ∀ i ∈ more, i.physical? = none) :
    contributions plan initial (inputs ++ more) = contributions plan initial inputs := by
  induction more generalizing inputs with
  | nil => rw [List.append_nil]
  | cons i more ih =>
      rw [List.append_cons, ih _ fun j hj => hnone j (List.mem_cons_of_mem _ hj),
        contributions_append_singleton, hnone i List.mem_cons_self, Option.map_none, ite_self]
      exact List.append_nil _

/-! ### The incomplete block -/

namespace Sampler

/-- What the sampler keeps is the incomplete block `rest`: its rows and the tick of the
first of them. -/
structure Keeps (rest : List (Nat × Row)) (s : Sampler) : Prop where
  rows : s.pending.toList = rest.map Prod.snd
  first : ∀ p, rest.head? = some p → s.pendingFirst = p.1

/-- After these ticks there are these full blocks of `n` rows, and this rest. -/
structure Collects (n : Nat) (records : List TickRecord) (blocks : List (List (Nat × Row)))
    (rest : List (Nat × Row)) : Prop where
  rows : rowsOf records = blocks.flatten ++ rest
  full : ∀ block ∈ blocks, block.length = n
  short : rest.length < n

variable {s : Sampler} {rest : List (Nat × Row)}

/-- With its next row the incomplete block becomes a batch if it is full, and is kept
otherwise. -/
theorem Keeps.collect (h : s.Keeps rest) (row : Row) :
    (s.collect row).2 = (if s.plan.batchRows ≤ rest.length + 1 then
        some (.ofBlock (rest ++ [(s.tick, row)])) else none) ∧
      (s.collect row).1.Keeps (if s.plan.batchRows ≤ rest.length + 1 then []
        else rest ++ [(s.tick, row)]) := by
  have hsize : (s.pending.push row).size = rest.length + 1 := by
    rw [Array.size_push, ← Array.length_toList, h.rows, List.length_map]
  have hrows : (s.pending.push row).toList = (rest ++ [(s.tick, row)]).map Prod.snd := by
    rw [Array.toList_push, h.rows, List.map_append]
    rfl
  -- The first tick of the block is kept from its first row on.
  have hfirst : (if s.pending.isEmpty then s.tick else s.pendingFirst) =
      (((rest ++ [(s.tick, row)]).head?).map Prod.fst).getD 0 := by
    cases rest with
    | nil =>
        have hempty : s.pending.isEmpty = true := by
          rw [← Array.isEmpty_toList, h.rows]
          rfl
        rw [if_pos hempty]
        rfl
    | cons p rest =>
        have hne : ¬s.pending.isEmpty = true := by
          rw [← Array.isEmpty_toList, h.rows]
          exact Bool.false_ne_true
        rw [if_neg hne, h.first p rfl]
        rfl
  simp only [Sampler.collect, hsize]
  by_cases hfull : s.plan.batchRows ≤ rest.length + 1
  · simp only [if_pos hfull]
    refine ⟨?_, rfl, by simp⟩
    rw [Batch.ofBlock, hfirst, ← hrows]
  · simp only [if_neg hfull]
    refine ⟨trivial, hrows, ?_⟩
    intro p hp
    simp only [hfirst, hp, Option.map_some, Option.getD_some]

/-- A tick without a row leaves the incomplete block as it is. -/
theorem Keeps.advance_of_none (h : s.Keeps rest) {result : TickResult} (hrow : result.row? = none) :
    (s.advance result).2 = none ∧ (s.advance result).1.Keeps rest := by
  cases result with
  | row row => simp [TickResult.row?] at hrow
  | fault f => exact ⟨rfl, h.rows, h.first⟩
  | discarded => exact ⟨rfl, h.rows, h.first⟩
  | incomplete m => exact ⟨rfl, h.rows, h.first⟩

/-- A tick with a row adds it to the incomplete block. -/
theorem Keeps.advance_of_some (h : s.Keeps rest) {result : TickResult} {row : Row}
    (hrow : result.row? = some row) :
    (s.advance result).2 = (if s.plan.batchRows ≤ rest.length + 1 then
        some (.ofBlock (rest ++ [(s.tick, row)])) else none) ∧
      (s.advance result).1.Keeps (if s.plan.batchRows ≤ rest.length + 1 then []
        else rest ++ [(s.tick, row)]) := by
  cases result with
  | row r =>
      obtain rfl : r = row := Option.some.inj hrow
      obtain ⟨hbatch, hkeeps⟩ := h.collect r
      exact ⟨hbatch, hkeeps.rows, hkeeps.first⟩
  | fault f => simp [TickResult.row?] at hrow
  | discarded => simp [TickResult.row?] at hrow
  | incomplete m => simp [TickResult.row?] at hrow

theorem Keeps.seeing (h : s.Keeps rest) (snapshot : Settings.Snapshot) :
    (s.seeing snapshot).Keeps rest := by
  rw [seeing_eq]
  exact ⟨h.rows, h.first⟩

/-! ### Blocks of a replay -/

section Collects

variable {n : Nat} {records : List TickRecord} {blocks : List (List (Nat × Row))} {r : TickRecord}

theorem Collects.snoc_of_none (h : Collects n records blocks rest) (hrow : r.result.row? = none) :
    Collects n (records ++ [r]) blocks rest := by
  refine ⟨?_, h.full, h.short⟩
  rw [rowsOf_append_singleton, hrow, h.rows]
  exact List.append_nil _

theorem Collects.rows_snoc (h : Collects n records blocks rest) {row : Row}
    (hrow : r.result.row? = some row) :
    rowsOf (records ++ [r]) = blocks.flatten ++ (rest ++ [(records.length, row)]) := by
  rw [rowsOf_append_singleton, hrow, h.rows, List.append_assoc]
  rfl

/-- The last row of a block makes it full. -/
theorem Collects.snoc_full (h : Collects n records blocks rest) {row : Row}
    (hrow : r.result.row? = some row) (hn : 0 < n) (hlast : n ≤ rest.length + 1) :
    Collects n (records ++ [r]) (blocks ++ [rest ++ [(records.length, row)]]) [] := by
  refine ⟨?_, ?_, hn⟩
  · rw [h.rows_snoc hrow, List.flatten_append, List.flatten_singleton, List.append_nil]
  · intro block hblock
    have hshort := h.short
    rcases List.mem_append.mp hblock with hold | hnew
    · exact h.full block hold
    · rw [List.mem_singleton.mp hnew, List.length_append, List.length_singleton]
      omega

theorem Collects.snoc_short (h : Collects n records blocks rest) {row : Row}
    (hrow : r.result.row? = some row) (hlast : ¬n ≤ rest.length + 1) :
    Collects n (records ++ [r]) blocks (rest ++ [(records.length, row)]) := by
  refine ⟨h.rows_snoc hrow, h.full, ?_⟩
  rw [List.length_append, List.length_singleton]
  omega

end Collects

variable {plan : StreamPlan} {initial : UInt64} {fitted : Bool} {records : List TickRecord}
  {batches : List Batch}

/-- The batches of a replay are its full blocks, and the sampler keeps the rest. -/
theorem Yields.collects (h : Yields fitted (.start plan initial) records batches s) :
    ∃ blocks rest, Collects (max plan.batchRows 1) records blocks rest ∧ s.Keeps rest ∧
      batches = blocks.map Batch.ofBlock := by
  have hpos : 0 < max plan.batchRows 1 := by omega
  induction h with
  | nil => exact ⟨[], [], ⟨rfl, by simp, hpos⟩, ⟨rfl, by simp⟩, rfl⟩
  | @snoc records batches s r hyields _ ih =>
      obtain ⟨blocks, rest, hcollects, hkeeps, rfl⟩ := ih
      have hcounts := hyields.counts
      have hplan : (s.seeing r.snapshot).plan.batchRows = max plan.batchRows 1 := by
        rw [seeing_eq, hcounts.constant]
        rfl
      have htick : (s.seeing r.snapshot).tick = records.length := by
        rw [seeing_eq, hcounts.tick, List.length_map]
      cases hrow : r.result.row? with
      | none =>
          obtain ⟨hbatch, hkeeps'⟩ := (hkeeps.seeing r.snapshot).advance_of_none hrow
          rw [hbatch]
          exact ⟨blocks, rest, hcollects.snoc_of_none hrow, hkeeps', List.append_nil _⟩
      | some row =>
          obtain ⟨hbatch, hkeeps'⟩ := (hkeeps.seeing r.snapshot).advance_of_some hrow
          rw [hplan, htick] at hbatch hkeeps'
          rw [hbatch]
          by_cases hlast : max plan.batchRows 1 ≤ rest.length + 1
          · rw [if_pos hlast] at hkeeps' ⊢
            refine ⟨_, [], hcollects.snoc_full hrow hpos hlast, hkeeps', ?_⟩
            rw [List.map_append]
            rfl
          · rw [if_neg hlast] at hkeeps' ⊢
            exact ⟨blocks, _, hcollects.snoc_short hrow hlast, hkeeps', List.append_nil _⟩

end Sampler

/-! ### Batches of a replay -/

/-- The row that a tick brought is its physical row, unless the guard was up. -/
theorem Sampler.Fits.row?_eq {fitted : Bool} {s : Sampler} {r : TickRecord} (h : s.Fits fitted r) :
    r.result.row? = if r.guarded then none else r.input.physical? := by
  rcases TickRecord.brought?_cases h.brought? with ⟨f, hout, hresult⟩ |
    ⟨raw, hout, hguarded, hresult⟩ | ⟨raw, m, hout, hguarded, hrow, hresult⟩ |
    ⟨raw, row, hout, hguarded, hrow, hresult⟩
  · simp only [hresult, TickResult.row?, TickRecord.input, TickInput.physical?, hout, ite_self]
  · rw [hresult, if_pos hguarded]
    rfl
  all_goals
    rw [hresult, if_neg (by simp [hguarded]), r.input.physical?_of_row hout]
    exact congrArg Except.toOption hrow.symm

namespace Sampler.Yields

variable {plan : StreamPlan} {initial : UInt64} {fitted : Bool} {records : List TickRecord}
  {batches : List Batch} {s : Sampler}

/-- The rows that the ticks brought are the contributed ones. -/
theorem rowsOf_eq (h : Yields fitted (.start plan initial) records batches s) :
    rowsOf records = contributions plan initial (records.map TickRecord.input) := by
  induction h with
  | nil => rfl
  | @snoc records _ s r hyields hfits ih =>
      have hguard : r.guarded = true ↔ InWindow plan initial
          (records.map TickRecord.epoch ++ [r.input.epoch]) records.length := by
        rw [hfits.guarded, hyields.counts.isGuarded_iff r.snapshot, List.length_map]
        rfl
      have hepochs : (records.map TickRecord.input).map TickInput.epoch =
          records.map TickRecord.epoch := List.map_map
      rw [rowsOf_append_singleton, List.map_append, List.map_singleton,
        contributions_append_singleton, ih, hfits.row?_eq, hepochs, List.length_map]
      by_cases hwindow : InWindow plan initial (records.map TickRecord.epoch ++ [r.input.epoch])
          records.length
      · rw [if_pos hwindow, if_pos (hguard.mpr hwindow)]
        rfl
      · rw [if_neg hwindow, if_neg fun hg => hwindow (hguard.mp hg)]

/-- The batches of a replay are the reference batches of its ticks. -/
theorem batches_eq (hrows : 0 < plan.batchRows)
    (h : Yields fitted (.start plan initial) records batches s) :
    batches = referenceBatches plan initial (records.map TickRecord.input) := by
  obtain ⟨blocks, rest, hcollects, _, rfl⟩ := h.collects
  have hmax : max plan.batchRows 1 = plan.batchRows := by omega
  rw [hmax] at hcollects
  rw [referenceBatches, ← h.rowsOf_eq, hcollects.rows, fullBlocks_eq hcollects.full hcollects.short]

end Sampler.Yields

/-! ### What batches are made of -/

/-- The input brings this row: its read succeeded, and the row is the calibrated reading. -/
def TickInput.Brings (i : TickInput) (row : Row) : Prop :=
  ∃ raw, i.outcome = .row raw ∧ i.snapshot.calibrate raw = .ok row

theorem TickInput.brings_of_physical? {i : TickInput} {row : Row} (h : i.physical? = some row) :
    i.Brings row := by
  cases hout : i.outcome with
  | row raw =>
      rw [i.physical?_of_row hout] at h
      refine ⟨raw, hout, ?_⟩
      cases hrow : i.snapshot.calibrate raw with
      | error m => simp [hrow, Except.toOption] at h
      | ok r => simpa [hrow, Except.toOption] using h
  | fault f => simp [physical?, hout] at h
  | crash => simp [physical?, hout] at h

/-- The batch consists of these rows, which ticks with these inputs brought. Ticks count from
the first of the inputs, and the batch tells that of its first row. -/
structure Batch.MadeOf (inputs : List TickInput) (block : List (Nat × Row)) (b : Batch) : Prop where
  rows : b.rows.toList = block.map Prod.snd
  first : block.head?.map Prod.fst = some b.firstTick
  increasing : block.Pairwise fun p q => p.1 < q.1
  brought : ∀ p ∈ block, ∃ i, inputs[p.1]? = some i ∧ i.Brings p.2

theorem contributions_increasing (plan : StreamPlan) (initial : UInt64) (inputs : List TickInput) :
    (contributions plan initial inputs).Pairwise fun p q => p.1 < q.1 := by
  rw [contributions, List.pairwise_filterMap]
  refine List.pairwise_lt_range.imp ?_
  intro t u htu p hp q hq
  have hfst : ∀ {t : Nat} {p : Nat × Row}, (if InWindow plan initial (inputs.map TickInput.epoch) t
      then none else (inputs[t]?.bind TickInput.physical?).map (t, ·)) = some p → p.1 = t := by
    intro t p h
    split at h
    · cases h
    · obtain ⟨row, -, rfl⟩ := Option.map_eq_some_iff.mp h
      rfl
  rw [hfst hp, hfst hq]
  exact htu

theorem contributions_brought {plan : StreamPlan} {initial : UInt64} {inputs : List TickInput}
    {p : Nat × Row} (h : p ∈ contributions plan initial inputs) :
    ∃ i, inputs[p.1]? = some i ∧ i.Brings p.2 := by
  obtain ⟨t, -, ht⟩ := List.mem_filterMap.mp h
  split at ht
  · cases ht
  · obtain ⟨row, hrow, rfl⟩ := Option.map_eq_some_iff.mp ht
    obtain ⟨i, hi, hphysical⟩ := Option.bind_eq_some_iff.mp hrow
    exact ⟨i, hi, i.brings_of_physical? hphysical⟩

/-- A reference batch consists of rows that its ticks brought. -/
theorem madeOf_of_mem_reference {plan : StreamPlan} (hrows : 0 < plan.batchRows) {initial : UInt64}
    {inputs : List TickInput} {b : Batch} (h : b ∈ referenceBatches plan initial inputs) :
    ∃ block, b.MadeOf inputs block := by
  obtain ⟨block, hblock, rfl⟩ := List.mem_map.mp h
  obtain ⟨hlength, hsublist⟩ := of_mem_fullBlocks hblock
  have hne : block ≠ [] := List.ne_nil_of_length_pos (by omega)
  obtain ⟨p, rest, rfl⟩ := List.exists_cons_of_ne_nil hne
  exact ⟨p :: rest, rfl, rfl, (contributions_increasing plan initial inputs).sublist hsublist,
    fun q hq => contributions_brought (hsublist.subset hq)⟩

end QuadDaq

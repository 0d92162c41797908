import QuadDaq.Proofs.Stream.Replay

/-!
# The discard guard is a union of windows

**A countdown that is raised to a maximum covers exactly the union of the windows it
was raised for.** The startup discard is one window. Every tick that sees a new bridge
epoch opens another one, which begins with that tick. `InWindow` says this of the epochs
that the ticks saw, without any countdown, and `Yields.guarded_iff` shows that the sampler
agrees.

The invariant (`Counts`) speaks of the ticks still to come: before tick `n` the
countdown covers a tick `t ≥ n` exactly if a window that was opened before `n` does.
-/

namespace QuadDaq

/-! ### Windows -/

/-- The epoch seen last by ticks that saw these, or the one that the stream was started
with. -/
def lastSeen (initial : UInt64) (epochs : List UInt64) : UInt64 := epochs.getLast?.getD initial

/-- Tick `u` saw another epoch than the one seen last before it. -/
def seesChange (initial : UInt64) (epochs : List UInt64) (u : Nat) : Bool :=
  match epochs[u]? with
  | some epoch => epoch != lastSeen initial (epochs.take u)
  | none => false

/-- Tick `t` lies in the startup discard, or in the settling time after a tick that saw
a new epoch. -/
def InWindow (plan : StreamPlan) (initial : UInt64) (epochs : List UInt64) (t : Nat) : Prop :=
  t < plan.startupDiscard ∨
    ∃ u, u ≤ t ∧ t < u + plan.settlingTicks ∧ seesChange initial epochs u = true

instance (plan : StreamPlan) (initial : UInt64) (epochs : List UInt64) (t : Nat) :
    Decidable (InWindow plan initial epochs t) :=
  inferInstanceAs (Decidable (_ ∨ ∃ u, u ≤ t ∧ _))

/-- Tick `t` lies in a window that was opened before tick `n`. -/
def InWindowBefore (plan : StreamPlan) (initial : UInt64) (epochs : List UInt64)
    (n t : Nat) : Prop :=
  t < plan.startupDiscard ∨
    ∃ u, u < n ∧ t < u + plan.settlingTicks ∧ seesChange initial epochs u = true

section Windows

variable {plan : StreamPlan} {initial : UInt64} {epochs : List UInt64}

theorem inWindow_iff {t : Nat} :
    InWindow plan initial epochs t ↔ InWindowBefore plan initial epochs (t + 1) t := by
  simp only [InWindow, InWindowBefore, Nat.lt_succ_iff]

/-! ### Later ticks open no earlier window -/

@[simp] theorem lastSeen_append_singleton (initial : UInt64) (epochs : List UInt64)
    (epoch : UInt64) : lastSeen initial (epochs ++ [epoch]) = epoch := by
  simp [lastSeen]

theorem lastSeen_cons (initial epoch : UInt64) (epochs : List UInt64) :
    lastSeen initial (epoch :: epochs) = lastSeen epoch epochs := by
  simp [lastSeen, List.getLast?_cons]

theorem seesChange_append {u : Nat} (h : u < epochs.length) (later : List UInt64) :
    seesChange initial (epochs ++ later) u = seesChange initial epochs u := by
  simp only [seesChange, List.getElem?_append_left h, List.take_append_of_le_length (Nat.le_of_lt h)]

theorem seesChange_length (initial : UInt64) (epochs : List UInt64) (epoch : UInt64) :
    seesChange initial (epochs ++ [epoch]) epochs.length = (epoch != lastSeen initial epochs) := by
  simp [seesChange]

/-- If all ticks see the epoch of the start, none of them sees a new one. -/
theorem seesChange_eq_false (h : ∀ epoch ∈ epochs, epoch = initial) (u : Nat) :
    seesChange initial epochs u = false := by
  have hlast : lastSeen initial (epochs.take u) = initial := by
    unfold lastSeen
    cases hget : (epochs.take u).getLast? with
    | none => rfl
    | some epoch => exact h epoch (List.mem_of_mem_take (List.mem_of_getLast? hget))
  unfold seesChange
  rw [hlast]
  split
  · next epoch hget => simp [h epoch (List.mem_of_getElem? hget)]
  · rfl

theorem inWindowBefore_append {n : Nat} (h : n ≤ epochs.length) (later : List UInt64) (t : Nat) :
    InWindowBefore plan initial (epochs ++ later) n t ↔
      InWindowBefore plan initial epochs n t := by
  refine or_congr_right (exists_congr fun u => ?_)
  constructor
  · rintro ⟨hu, hcovers, hsees⟩
    exact ⟨hu, hcovers, by rwa [seesChange_append (by omega)] at hsees⟩
  · rintro ⟨hu, hcovers, hsees⟩
    exact ⟨hu, hcovers, by rwa [seesChange_append (by omega)]⟩

theorem inWindow_append {t : Nat} (h : t < epochs.length) (later : List UInt64) :
    InWindow plan initial (epochs ++ later) t ↔ InWindow plan initial epochs t := by
  rw [inWindow_iff, inWindow_iff]
  exact inWindowBefore_append h later t

/-- One more tick opens one more window if it sees a new epoch. -/
theorem inWindowBefore_succ {epoch : UInt64} {t : Nat} :
    InWindowBefore plan initial (epochs ++ [epoch]) (epochs.length + 1) t ↔
      InWindowBefore plan initial epochs epochs.length t ∨
        t < epochs.length + plan.settlingTicks ∧ epoch ≠ lastSeen initial epochs := by
  rw [← inWindowBefore_append (Nat.le_refl _) [epoch], InWindowBefore, InWindowBefore, or_assoc]
  refine or_congr_right ?_
  constructor
  · rintro ⟨u, hu, hcovers, hsees⟩
    rcases Nat.lt_succ_iff_lt_or_eq.mp hu with hlt | rfl
    · exact .inl ⟨u, hlt, hcovers, hsees⟩
    · rw [seesChange_length, bne_iff_ne] at hsees
      exact .inr ⟨hcovers, hsees⟩
  · rintro (⟨u, hu, hcovers, hsees⟩ | ⟨hcovers, hsees⟩)
    · exact ⟨u, Nat.lt_succ_of_lt hu, hcovers, hsees⟩
    · refine ⟨epochs.length, Nat.lt_succ_self _, hcovers, ?_⟩
      rwa [seesChange_length, bne_iff_ne]

/-- Tick 2 sees a new epoch, and so does tick 4 before that window has ended. -/
example : (List.range 9).filter (InWindow ⟨1, 3, 1, 1⟩ 0 [0, 0, 1, 1, 2, 2, 2, 2, 2] ·) =
    [0, 2, 3, 4, 5, 6] := by decide

end Windows

/-! ### The countdown -/

/-- After ticks that saw these epochs, of a stream that was started with this plan and
epoch, the countdown covers of the ticks to come those in a window that was opened
already. -/
structure Sampler.Counts (plan : StreamPlan) (initial : UInt64) (epochs : List UInt64)
    (s : Sampler) : Prop where
  constant : s.plan = (start plan initial).plan
  tick : s.tick = epochs.length
  epoch : s.epoch = lastSeen initial epochs
  left : ∀ t, epochs.length ≤ t →
    (t < epochs.length + s.discardLeft ↔ InWindowBefore plan initial epochs epochs.length t)

/-- The epoch that a tick saw. -/
def TickRecord.epoch (r : TickRecord) : UInt64 := r.snapshot.bridgeEpoch

namespace Sampler

variable {plan : StreamPlan} {initial : UInt64} {epochs : List UInt64} {s : Sampler}

theorem counts_start : Counts plan initial [] (.start plan initial) := by
  refine ⟨rfl, rfl, rfl, ?_⟩
  intro t _
  simp [start, InWindowBefore]

theorem seeing_eq (s : Sampler) (snapshot : Settings.Snapshot) :
    s.seeing snapshot = { s with
      epoch := snapshot.bridgeEpoch
      discardLeft := if snapshot.bridgeEpoch ≠ s.epoch then max s.discardLeft s.plan.settlingTicks
        else s.discardLeft } := by
  simp only [seeing, observe, needsRouting, bne_iff_ne, ne_comm (a := s.epoch)]
  by_cases h : snapshot.bridgeEpoch = s.epoch
  · rw [if_neg (by simp [h]), if_neg (by simp [h]), h]
  · rw [if_pos h, if_pos h]

/-- In the middle of a tick the countdown covers this tick's window as well. -/
theorem Counts.seeing (h : Counts plan initial epochs s) (snapshot : Settings.Snapshot) {t : Nat}
    (ht : epochs.length ≤ t) :
    t < epochs.length + (s.seeing snapshot).discardLeft ↔
      InWindowBefore plan initial (epochs ++ [snapshot.bridgeEpoch]) (epochs.length + 1) t := by
  rw [inWindowBefore_succ, ← h.left t ht, seeing_eq, h.epoch, h.constant]
  by_cases hsees : snapshot.bridgeEpoch ≠ lastSeen initial epochs
  · have hsettling : (start plan initial).plan.settlingTicks = plan.settlingTicks := rfl
    -- A countdown raised to the greater of two covers what either of them covers.
    simp only [if_pos hsees, hsettling, and_iff_left hsees]
    omega
  · rw [if_neg hsees, or_iff_left fun hopens => hsees hopens.2]

/-- The guard of a tick is up exactly if the tick lies in a window. -/
theorem Counts.isGuarded_iff (h : Counts plan initial epochs s) (snapshot : Settings.Snapshot) :
    (s.seeing snapshot).isGuarded = true ↔
      InWindow plan initial (epochs ++ [snapshot.bridgeEpoch]) epochs.length := by
  rw [inWindow_iff, ← h.seeing snapshot (Nat.le_refl _), isGuarded, decide_eq_true_iff]
  omega

theorem advance_eq (s : Sampler) (result : TickResult) :
    (s.advance result).1 = { s with
      tick := s.tick + 1
      discardLeft := s.discardLeft - 1
      pending := (s.advance result).1.pending
      pendingFirst := (s.advance result).1.pendingFirst } := by
  cases result with
  | row row =>
      simp only [advance, collect]
      split <;> rfl
  | fault f => rfl
  | discarded => rfl
  | incomplete m => rfl

theorem Counts.advance (h : Counts plan initial epochs s) (snapshot : Settings.Snapshot)
    (result : TickResult) :
    Counts plan initial (epochs ++ [snapshot.bridgeEpoch])
      ((s.seeing snapshot).advance result).1 := by
  rw [advance_eq]
  refine ⟨?_, ?_, ?_, ?_⟩
  · rw [seeing_eq]
    exact h.constant
  · rw [seeing_eq, List.length_append, List.length_singleton]
    exact congrArg (· + 1) h.tick
  · rw [seeing_eq, lastSeen_append_singleton]
  · intro t ht
    rw [List.length_append, List.length_singleton] at ht ⊢
    rw [← h.seeing snapshot (by omega)]
    simp only
    omega

variable {fitted : Bool} {records : List TickRecord} {batches : List Batch}

/-- The invariant holds after every replay. -/
theorem Yields.counts (h : Yields fitted (.start plan initial) records batches s) :
    Counts plan initial (records.map TickRecord.epoch) s := by
  induction h with
  | nil => exact counts_start
  | snoc _ _ ih =>
      rw [List.map_append]
      exact ih.advance _ _

/-! ### Every tick of a replay -/

/-- The record of tick `t` fits the sampler that the ticks before it lead to. -/
theorem Yields.fits_at (h : Yields fitted (.start plan initial) records batches s) {t : Nat}
    {r : TickRecord} (hr : records[t]? = some r) :
    ∃ s', Counts plan initial ((records.take t).map TickRecord.epoch) s' ∧ s'.Fits fitted r := by
  induction h with
  | nil => simp at hr
  | @snoc records _ s _ hyields hfits ih =>
      rcases Nat.lt_or_ge t records.length with hlt | hge
      · rw [List.getElem?_append_left hlt] at hr
        rw [List.take_append_of_le_length (Nat.le_of_lt hlt)]
        exact ih hr
      · obtain rfl : t = records.length := by
          have := (List.getElem?_eq_some_iff.mp hr).1
          simp only [List.length_append, List.length_singleton] at this
          omega
        simp only [List.getElem?_concat_length, Option.some.injEq] at hr
        rw [List.take_left, ← hr]
        exact ⟨s, hyields.counts, hfits⟩

theorem length_epochs_take {t : Nat} {r : TickRecord} (hr : records[t]? = some r) :
    ((records.take t).map TickRecord.epoch).length = t := by
  obtain ⟨hlt, -⟩ := List.getElem?_eq_some_iff.mp hr
  rw [List.length_map, List.length_take_of_le (Nat.le_of_lt hlt)]

/-- The guard was up at a tick exactly if the tick lies in a window. -/
theorem Yields.guarded_iff (h : Yields fitted (.start plan initial) records batches s) {t : Nat}
    {r : TickRecord} (hr : records[t]? = some r) :
    r.guarded = true ↔ InWindow plan initial (records.map TickRecord.epoch) t := by
  obtain ⟨s', hcounts, hfits⟩ := h.fits_at hr
  obtain ⟨hlt, hget⟩ := List.getElem?_eq_some_iff.mp hr
  have hlength := length_epochs_take hr
  have hsplit : records.map TickRecord.epoch =
      ((records.take t).map TickRecord.epoch ++ [r.epoch]) ++
        (records.drop (t + 1)).map TickRecord.epoch := by
    rw [← List.map_singleton, ← List.map_append, ← List.map_append, ← hget,
      List.take_append_getElem, List.take_append_drop]
  have hguarded := hcounts.isGuarded_iff r.snapshot
  rw [hlength] at hguarded
  rw [hfits.guarded, hguarded, hsplit]
  -- The sampler has seen the epochs up to this tick, and later ones open no window for it.
  exact (inWindow_append (by rw [List.length_append, hlength]; exact Nat.lt_succ_self t) _).symm

/-- A tick polled the button exactly if a button is fitted and the tick is a multiple of
the polling interval. -/
theorem Yields.polled_eq (h : Yields fitted (.start plan initial) records batches s) {t : Nat}
    {r : TickRecord} (hr : records[t]? = some r) :
    r.polled.isSome = (fitted && t % max plan.pollTicks 1 == 0) := by
  obtain ⟨s', hcounts, hfits⟩ := h.fits_at hr
  rw [hfits.polled, pollsButton, hcounts.tick, hcounts.constant, length_epochs_take hr]
  rfl

end Sampler

/-! ### What a tick brings -/

/-- What a tick brings, by the end of its read and by the guard. -/
def TickRecord.brought? (r : TickRecord) : Option TickResult :=
  match r.outcome with
  | .fault f => some (.fault f)
  | .crash => none
  | .row raw =>
    if r.guarded then some .discarded
    else match r.snapshot.calibrate raw with
      | .ok row => some (.row row)
      | .error m => some (.incomplete m)

/-- The end of a read means for the sampler what it means for the record. -/
theorem Sampler.brought?_eq {s : Sampler} {r : TickRecord} (hguarded : r.guarded = s.isGuarded)
    (hresult : s.result? r.snapshot r.outcome = some r.result) : r.brought? = some r.result := by
  rw [← hresult, TickRecord.brought?, hguarded]
  cases r.outcome with
  | fault f => rfl
  | crash => rfl
  | row raw =>
      simp only [result?, resultOfRow]
      by_cases hg : s.isGuarded
      · rw [if_pos hg, if_pos hg]
      · rw [if_neg hg, if_neg hg]
        cases r.snapshot.calibrate raw <;> rfl

/-- A tick brings a fault, or is discarded, or is incomplete, or brings a row. -/
theorem TickRecord.brought?_cases {r : TickRecord} {result : TickResult}
    (h : r.brought? = some result) :
    (∃ f, r.outcome = .fault f ∧ result = .fault f) ∨
    (∃ raw, r.outcome = .row raw ∧ r.guarded = true ∧ result = .discarded) ∨
    (∃ raw m, r.outcome = .row raw ∧ r.guarded = false ∧ r.snapshot.calibrate raw = .error m ∧
      result = .incomplete m) ∨
    ∃ raw row, r.outcome = .row raw ∧ r.guarded = false ∧ r.snapshot.calibrate raw = .ok row ∧
      result = .row row := by
  unfold brought? at h
  cases hout : r.outcome with
  | fault f =>
      simp only [hout, Option.some.injEq] at h
      exact .inl ⟨f, rfl, h.symm⟩
  | crash => simp only [hout, reduceCtorEq] at h
  | row raw =>
      simp only [hout] at h
      cases hguarded : r.guarded with
      | true =>
          rw [if_pos hguarded, Option.some.injEq] at h
          exact .inr (.inl ⟨raw, rfl, rfl, h.symm⟩)
      | false =>
          rw [if_neg (by simp [hguarded])] at h
          cases hrow : r.snapshot.calibrate raw with
          | error m =>
              simp only [hrow, Option.some.injEq] at h
              exact .inr (.inr (.inl ⟨raw, m, rfl, rfl, hrow, h.symm⟩))
          | ok row =>
              simp only [hrow, Option.some.injEq] at h
              exact .inr (.inr (.inr ⟨raw, row, rfl, rfl, hrow, h.symm⟩))

theorem Sampler.Fits.brought? {fitted : Bool} {s : Sampler} {r : TickRecord}
    (h : s.Fits fitted r) : r.brought? = some r.result :=
  brought?_eq h.guarded h.result

end QuadDaq

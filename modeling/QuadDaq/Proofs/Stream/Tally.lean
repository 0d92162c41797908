import QuadDaq.Proofs.Stream.Guard

/-!
# Every tick is counted once

**The lifetime counters of an engine say how its completed ticks ended**, those of all
streams together. Three laws hold in every state, whatever was started and stopped:

* each tick is in the counter of what it brought (`Tallied`), and brought what its read
  and its guard say (`Explained`);
* each row that a tick brought is in a published batch, was abandoned with its stream, or
  is still pending (`KeepsRows`);
* each tick is followed at once by its error report (`Reported`).
-/

namespace QuadDaq

open Relation (ReflTransGen)

/-- The read succeeded. -/
def ReadOutcome.isRow : ReadOutcome → Bool
  | .row _ => true
  | _ => false

/-- The read failed. -/
def ReadOutcome.isFault : ReadOutcome → Bool
  | .fault _ => true
  | _ => false

namespace TickResult

def isFault : TickResult → Bool
  | .fault _ => true
  | _ => false

def isDiscarded : TickResult → Bool
  | .discarded => true
  | _ => false

def isIncomplete : TickResult → Bool
  | .incomplete _ => true
  | _ => false

def isRow : TickResult → Bool
  | .row _ => true
  | _ => false

end TickResult

namespace TickRecord

variable {r : TickRecord}

theorem isDiscarded_eq (h : r.brought? = some r.result) :
    r.result.isDiscarded = (r.guarded && r.outcome.isRow) := by
  rcases brought?_cases h with ⟨f, hout, hresult⟩ | ⟨raw, hout, hguarded, hresult⟩ |
    ⟨raw, m, hout, hguarded, -, hresult⟩ | ⟨raw, row, hout, hguarded, -, hresult⟩
  · rw [hout, hresult]
    exact (Bool.and_false _).symm
  · rw [hout, hresult, hguarded]
    rfl
  · rw [hout, hresult, hguarded]
    rfl
  · rw [hout, hresult, hguarded]
    rfl

theorem isFault_eq (h : r.brought? = some r.result) : r.result.isFault = r.outcome.isFault := by
  rcases brought?_cases h with ⟨f, hout, hresult⟩ | ⟨raw, hout, -, hresult⟩ |
    ⟨raw, m, hout, -, -, hresult⟩ | ⟨raw, row, hout, -, -, hresult⟩ <;> rw [hout, hresult] <;> rfl

end TickRecord

/-- No counter of these is greater than in the second counters. -/
structure TickCounters.GrowTo (n m : TickCounters) : Prop where
  ticks : n.ticks ≤ m.ticks
  discarded : n.discarded ≤ m.discarded
  faults : n.faults ≤ m.faults
  incomplete : n.incomplete ≤ m.incomplete
  late : n.late ≤ m.late

theorem TickCounters.GrowTo.refl (n : TickCounters) : n.GrowTo n :=
  ⟨Nat.le_refl _, Nat.le_refl _, Nat.le_refl _, Nat.le_refl _, Nat.le_refl _⟩

theorem TickCounters.GrowTo.trans {n₁ n₂ n₃ : TickCounters} (h : n₁.GrowTo n₂)
    (h' : n₂.GrowTo n₃) : n₁.GrowTo n₃ :=
  ⟨Nat.le_trans h.ticks h'.ticks, Nat.le_trans h.discarded h'.discarded,
    Nat.le_trans h.faults h'.faults, Nat.le_trans h.incomplete h'.incomplete,
    Nat.le_trans h.late h'.late⟩

namespace Engine

variable {β : Type} {e e' : Engine β}

/-! ### Counters -/

/-- How many completed ticks, of all streams together, ended like this. -/
def ticksWith (e : Engine β) (ended : TickResult → Bool) : Nat :=
  e.ticked.countP fun p => ended p.2.result

/-- The counters say how the completed ticks ended. -/
structure Tallied (e : Engine β) : Prop where
  ticks : e.counters.ticks = e.ticked.length
  discarded : e.counters.discarded = e.ticksWith TickResult.isDiscarded
  faults : e.counters.faults = e.ticksWith TickResult.isFault
  incomplete : e.counters.incomplete = e.ticksWith TickResult.isIncomplete

/-- Every completed tick brought what its read and its guard say. -/
def Explained (e : Engine β) : Prop := ∀ p ∈ e.ticked, p.2.brought? = some p.2.result

/-- A change completes one tick at most, and counts it. -/
theorem Change.tick_cases (h : Change e e') :
    (e'.ticked = e.ticked ∧ e'.counters = e.counters) ∨
    ∃ k r late, e'.ticked = e.ticked ++ [(k, r)] ∧ r.brought? = some r.result ∧
      e'.counters = e.counters.settled r.result late ∧ e.counters.late ≤ late := by
  cases h with
  | quiet hlog => exact .inl ⟨congrArg (List.filterMap _) hlog, rfl⟩
  | wrote _ => exact .inl ⟨rfl, rfl⟩
  | attempted _ _ _ hlog => exact .inl ⟨congrArg (List.filterMap _) hlog, rfl⟩
  | started _ _ hlog => exact .inl ⟨congrArg (List.filterMap _) hlog, rfl⟩
  | opened _ _ _ _ _ _ hlog _ => exact .inl ⟨Eq.trans (ticked_of_course hlog) (by simp), rfl⟩
  | @completed run tick outcome result _ _ late _ _ _ _ hresult hlate hlog =>
      refine .inr ⟨run.stream, run.sampler.recordOf tick outcome result, late, ?_, ?_, rfl, hlate⟩
      · exact And.left (completed_views hlog)
      · exact Sampler.brought?_eq rfl hresult
  | crashed _ _ hlog => exact .inl ⟨Eq.trans (ticked_of_course hlog) (List.append_nil _), rfl⟩
  | detached _ _ _ => exact .inl ⟨rfl, rfl⟩
  | ended _ _ _ _ hlog => exact .inl ⟨Eq.trans (ticked_of_course hlog) (List.append_nil _), rfl⟩

/-- Completed ticks stay on the record. -/
theorem ticked_prefix_of_changes (h : ReflTransGen Change e e') : e.ticked <+: e'.ticked := by
  induction h with
  | refl => exact List.prefix_refl _
  | tail _ hchange ih =>
      rcases hchange.tick_cases with ⟨hticked, -⟩ | ⟨k, r, late, hticked, -⟩
      · rw [hticked]
        exact ih
      · rw [hticked]
        exact ih.trans (List.prefix_append _ _)

theorem ticksWith_of_ticked (ended : TickResult → Bool) {k : Nat} {r : TickRecord}
    (h : e'.ticked = e.ticked ++ [(k, r)]) :
    e'.ticksWith ended = e.ticksWith ended + if ended r.result then 1 else 0 := by
  rw [ticksWith, h, List.countP_append, List.countP_singleton, ← ticksWith]

theorem Change.tallied (h : Change e e') (ht : e.Tallied) : e'.Tallied := by
  rcases h.tick_cases with ⟨hticked, hcounters⟩ | ⟨k, r, late, hticked, -, hcounters, -⟩
  · refine ⟨?_, ?_, ?_, ?_⟩ <;> simp only [ticksWith, hticked, hcounters]
    · exact ht.ticks
    · exact ht.discarded
    · exact ht.faults
    · exact ht.incomplete
  · obtain ⟨hticks, hdiscarded, hfaults, hincomplete⟩ := ht
    -- Each result counts itself and nothing else.
    constructor
    · rw [hticked, hcounters, List.length_append, ← hticks]
      cases r.result <;> rfl
    · rw [ticksWith_of_ticked _ hticked, hcounters, ← hdiscarded]
      cases r.result <;> rfl
    · rw [ticksWith_of_ticked _ hticked, hcounters, ← hfaults]
      cases r.result <;> rfl
    · rw [ticksWith_of_ticked _ hticked, hcounters, ← hincomplete]
      cases r.result <;> rfl

theorem Change.explained (h : Change e e') (he : e.Explained) : e'.Explained := by
  rcases h.tick_cases with ⟨hticked, -⟩ | ⟨k, r, late, hticked, hbrought, -⟩
  · rw [Explained, hticked]
    exact he
  · intro p hp
    rw [hticked] at hp
    rcases List.mem_append.mp hp with hold | hnew
    · exact he p hold
    · rw [List.mem_singleton.mp hnew]
      exact hbrought

/-- No change takes a count back. -/
theorem Change.counters_grow (h : Change e e') : e.counters.GrowTo e'.counters := by
  rcases h.tick_cases with ⟨-, hcounters⟩ | ⟨k, r, late, -, -, hcounters, hlate⟩
  · rw [hcounters]
    exact .refl _
  · rw [hcounters]
    cases r.result with
    | fault f => exact ⟨Nat.le_succ _, Nat.le_refl _, Nat.le_succ _, Nat.le_refl _, hlate⟩
    | discarded => exact ⟨Nat.le_succ _, Nat.le_succ _, Nat.le_refl _, Nat.le_refl _, hlate⟩
    | incomplete m => exact ⟨Nat.le_succ _, Nat.le_refl _, Nat.le_refl _, Nat.le_succ _, hlate⟩
    | row r => exact ⟨Nat.le_succ _, Nat.le_refl _, Nat.le_refl _, Nat.le_refl _, hlate⟩

/-- A tick is in exactly one counter, unless it brought a row. -/
theorem Tallied.sum (ht : e.Tallied) :
    e.counters.ticks = e.counters.discarded + e.counters.faults + e.counters.incomplete +
      e.ticksWith TickResult.isRow := by
  rw [ht.ticks, ht.discarded, ht.faults, ht.incomplete]
  simp only [ticksWith]
  induction e.ticked with
  | nil => rfl
  | cons p rest ih =>
      simp only [List.length_cons, List.countP_cons, ih]
      cases p.2.result <;> simp [TickResult.isDiscarded, TickResult.isFault,
        TickResult.isIncomplete, TickResult.isRow] <;> omega

/-- The discarded ticks are the guarded ones whose reads succeeded. -/
theorem Explained.discarded (he : e.Explained) :
    e.ticksWith TickResult.isDiscarded =
      e.ticked.countP fun p => p.2.guarded && p.2.outcome.isRow := by
  refine List.countP_congr fun p hp => ?_
  rw [TickRecord.isDiscarded_eq (he p hp)]

/-- The faulty ticks are those whose reads failed. -/
theorem Explained.faults (he : e.Explained) :
    e.ticksWith TickResult.isFault = e.ticked.countP fun p => p.2.outcome.isFault := by
  refine List.countP_congr fun p hp => ?_
  rw [TickRecord.isFault_eq (he p hp)]

/-! ### Rows -/

/-- The rows that ever went into an incomplete batch. -/
def rowsCollected (e : Engine β) : Nat := e.ticksWith TickResult.isRow

/-- The rows of the incomplete batch. -/
def rowsPending (e : Engine β) : Nat := (e.run.map fun run => run.sampler.pending.size).getD 0

/-- The rows that streams ended with. -/
def rowsAbandoned (e : Engine β) : Nat := (e.abandoned.map Array.size).sum

/-- Every row that a tick brought is in a batch, or was abandoned, or is pending. -/
def KeepsRows (e : Engine β) : Prop :=
  e.rowsCollected = weigh Batch.size e.batches + e.rowsAbandoned + e.rowsPending

/-- The sampler keeps a row or hands it out in a batch. -/
theorem advance_size (s : Sampler) (result : TickResult) (k : Nat) :
    weigh Batch.size ((s.advance result).2.toList.map (Prod.mk k)) +
        (s.advance result).1.pending.size =
      s.pending.size + if result.isRow then 1 else 0 := by
  cases result with
  | row row =>
      simp only [Sampler.advance, Sampler.collect]
      split <;> simp [TickResult.isRow, Batch.size]
  | fault f => exact Nat.zero_add _
  | discarded => exact Nat.zero_add _
  | incomplete m => exact Nat.zero_add _

/-- Changes that complete no tick. -/
theorem KeepsRows.of_course (h : e.KeepsRows) {added : List EngineEvent}
    (hcourse : e'.course = e.course ++ added) (hticked : added.filterMap EngineEvent.ticked? = [])
    (hbatches : (added.filterMap EngineEvent.published?).filterMap
      (fun p => p.2.batch?.map (Prod.mk p.1)) = [])
    (hrows : ((added.filterMap EngineEvent.abandoned?).map Array.size).sum + e'.rowsPending =
      e.rowsPending) :
    e'.KeepsRows := by
  unfold KeepsRows at h ⊢
  rw [rowsCollected, ticksWith, ticked_of_course hcourse, hticked, List.append_nil, ← ticksWith,
    ← rowsCollected, h, batches_of_course hcourse, hbatches, List.append_nil, rowsAbandoned, rowsAbandoned,
    abandoned_of_course hcourse, List.map_append, List.sum_append]
  omega

theorem KeepsRows.complete (h : e.KeepsRows) {s : Sampler} {k : Nat} {r : TickRecord}
    (hcourse : e'.course = e.course ++ .ticked k r :: (s.signalsOf r.result).map (.published k))
    (hbefore : e.rowsPending = s.pending.size)
    (hafter : e'.rowsPending = (s.advance r.result).1.pending.size) : e'.KeepsRows := by
  obtain ⟨hticked, hbatches, habandoned⟩ := completed_views hcourse
  have hsize := advance_size s r.result k
  unfold KeepsRows at h ⊢
  rw [rowsCollected, ticksWith_of_ticked _ hticked, ← rowsCollected, h, hbatches, weigh_append,
    rowsAbandoned, rowsAbandoned, habandoned, hbefore, hafter]
  omega

/-- Every change keeps the rows. -/
theorem Change.keepsRows (h : Change e e') (hc : e.Coherent) (hk : e.KeepsRows) :
    e'.KeepsRows := by
  cases h with
  | quiet hlog => exact hk.of_course (hlog.trans (List.append_nil _).symm) rfl rfl (Nat.zero_add _)
  | wrote _ => exact hk
  | attempted _ _ _ hlog =>
      exact hk.of_course (hlog.trans (List.append_nil _).symm) rfl rfl (Nat.zero_add _)
  | started _ hparked hlog =>
      refine hk.of_course (hlog.trans (List.append_nil _).symm) rfl rfl ?_
      rw [rowsPending, rowsPending, hc.run_eq_none hparked]
      rfl
  | @opened run _ _ _ _ _ signals _ hrun _ _ _ _ hlog hbatch =>
      have hnone : (signals.map (EngineEvent.published run.stream)).filterMap
          EngineEvent.abandoned? = [] := by
        simp
      have hpending : (run.sampler.observe e.store.snapshot.bridgeEpoch).pending =
          run.sampler.pending := by
        unfold Sampler.observe
        split <;> rfl
      refine hk.of_course hlog (by simp) ?_ ?_
      · rw [List.filterMap_map, EngineEvent.published?_comp, List.filterMap_eq_map, batches_map_mk,
          List.filterMap_eq_nil_iff.mpr hbatch, List.map_nil]
      · rw [hnone, rowsPending, rowsPending, hrun]
        simp [Engine.opened, hpending]
  | @completed run tick outcome result _ _ _ _ _ hrun _ _ _ hlog =>
      refine hk.complete (r := run.sampler.recordOf tick outcome result) hlog ?_ ?_
      · rw [rowsPending, hrun]
        rfl
      · rfl
  | crashed hrun _ hlog =>
      refine hk.of_course hlog rfl rfl ?_
      rw [rowsPending, rowsPending, hrun]
      exact Nat.zero_add _
  | detached _ _ _ => exact hk
  | ended hrun _ _ _ hlog =>
      refine hk.of_course hlog rfl rfl ?_
      rw [rowsPending, rowsPending, hrun]
      rfl

/-! ### Reports -/

/-- Every completed tick is followed at once by the reports of what it brought. -/
def Reported (e : Engine β) : Prop :=
  ∀ before k r after, e.course = before ++ .ticked k r :: after →
    (reportOf r.result).map (.published k) <+: after

theorem Reported.of_course (h : e.Reported) {added : List EngineEvent}
    (hcourse : e'.course = e.course ++ added)
    (hadded : ∀ before k r after, added = before ++ .ticked k r :: after →
      (reportOf r.result).map (.published k) <+: after) : e'.Reported := by
  intro before k r after heq
  rw [hcourse] at heq
  rcases List.append_eq_append_iff.mp heq with ⟨added', _, hsplit⟩ | ⟨rest, hbefore, hsplit⟩
  · exact hadded added' k r after hsplit
  · cases rest with
    | nil => exact hadded [] k r after hsplit.symm
    | cons event rest =>
        obtain ⟨rfl, rfl⟩ := List.cons.inj hsplit
        exact (h before k r rest hbefore).trans (List.prefix_append rest added)

theorem Change.reported (h : Change e e') (hr : e.Reported) : e'.Reported := by
  -- Only the completion of a tick adds a completed tick.
  have hsilent : ∀ {added : List EngineEvent}, e'.course = e.course ++ added →
      added.filterMap EngineEvent.ticked? = [] → e'.Reported := by
    intro added hcourse hnone
    refine hr.of_course hcourse fun before k r after heq => ?_
    rw [heq, List.filterMap_append, List.filterMap_cons] at hnone
    simp [EngineEvent.ticked?] at hnone
  cases h with
  | quiet hlog => exact hsilent (hlog.trans (List.append_nil _).symm) rfl
  | wrote _ => exact hr
  | attempted _ _ _ hlog => exact hsilent (hlog.trans (List.append_nil _).symm) rfl
  | started _ _ hlog => exact hsilent (hlog.trans (List.append_nil _).symm) rfl
  | opened _ _ _ _ _ _ hlog _ => exact hsilent hlog (by simp)
  | @completed run tick outcome result _ _ _ _ _ _ _ _ _ hlog =>
      refine hr.of_course hlog fun before k r after heq => ?_
      cases before with
      | nil =>
          obtain ⟨hticked, rfl⟩ := List.cons.inj heq
          obtain ⟨rfl, rfl⟩ := EngineEvent.ticked.inj hticked
          rw [Sampler.signalsOf, List.map_append]
          exact List.prefix_append _ _
      | cons event before =>
          have hmem : EngineEvent.ticked k r ∈
              (run.sampler.signalsOf result).map (EngineEvent.published run.stream) := by
            rw [(List.cons.inj heq).2]
            exact List.mem_append_right _ List.mem_cons_self
          simp at hmem
  | crashed _ _ hlog => exact hsilent hlog rfl
  | detached _ _ _ => exact hr
  | ended _ _ _ _ hlog => exact hsilent hlog rfl

end Engine

end QuadDaq

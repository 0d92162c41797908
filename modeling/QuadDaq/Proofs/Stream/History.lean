import QuadDaq.Proofs.Stream.Blocks

/-!
# What the ticks of a stream are given

**The snapshots on which ticks of a stream began, and how its reads ended**, with the ticks
that have no record: the one whose read took the stream down, and the one that is open. The
first half of a tick adds the snapshot of the store (`beginTick_history`), the second half
adds what the board answers (`endTick_history`), and nothing else adds anything.
-/

namespace QuadDaq

open Relation (ReflTransGen)

namespace Engine

variable {β : Type} {e e' : Engine β} {k : Nat}

/-- The snapshots on which ticks of a stream began. -/
def snapshotsOf (e : Engine β) (k : Nat) : List Settings.Snapshot :=
  (e.ticksOf k).map (·.snapshot) ++ (ofStream k e.crashes).map (·.snapshot) ++
    (ofStream k e.openTick?.toList).map (·.snapshot)

/-- How reads of a stream ended. -/
def outcomesOf (e : Engine β) (k : Nat) : List ReadOutcome :=
  (e.ticksOf k).map (·.outcome) ++ (ofStream k e.crashes).map fun _ => .crash

/-- A stream that a read took down has no further tick. -/
def CrashesLast (e : Engine β) : Prop :=
  ∀ run, e.run = some run → run.crashed = false → ofStream run.stream e.crashes = []

theorem Uneventful.history (h : e.Uneventful e') :
    e'.snapshotsOf k = e.snapshotsOf k ∧ e'.outcomesOf k = e.outcomesOf k := by
  simp only [snapshotsOf, outcomesOf, ticksOf, h.ticked, h.crashes, h.openTick, and_self]

theorem CrashesLast.of_course (hc : e.CrashesLast) {added : List EngineEvent}
    (hcourse : e'.course = e.course ++ added) (hnone : added.filterMap EngineEvent.crashed? = [])
    (hrun : ∀ run', e'.run = some run' → run'.crashed = false →
      ∃ run, e.run = some run ∧ run.crashed = false ∧ run'.stream = run.stream) :
    e'.CrashesLast := by
  intro run' hrun' hcrashed'
  obtain ⟨run, hrun, hcrashed, hstream⟩ := hrun run' hrun' hcrashed'
  rw [crashes_of_course hcourse, hnone, List.append_nil, hstream]
  exact hc run hrun hcrashed

theorem Change.crashesLast (h : Change e e') (hn : e.Numbered) (hc : e.CrashesLast) :
    e'.CrashesLast := by
  have hsame : ∀ run', e.run = some run' → run'.crashed = false →
      ∃ run, e.run = some run ∧ run.crashed = false ∧ run'.stream = run.stream :=
    fun run' hrun' hcrashed => ⟨run', hrun', hcrashed, rfl⟩
  cases h with
  | quiet hlog => exact hc.of_course (hlog.trans (List.append_nil _).symm) rfl hsame
  | wrote _ => exact hc
  | attempted _ _ _ hlog => exact hc.of_course (hlog.trans (List.append_nil _).symm) rfl hsame
  | @started board log _ _ hlog =>
      rintro run hrun -
      obtain rfl : e.newRun = run := Option.some.inj hrun
      exact (ticksOf_eq_nil (started_unheard hn board hlog)).2.2
  | opened _ hrun _ _ _ _ hlog _ =>
      refine hc.of_course hlog (by simp) ?_
      rintro run' hrun' hcrashed'
      rw [← Option.some.inj hrun'] at hcrashed' ⊢
      exact ⟨_, hrun, hcrashed', rfl⟩
  | completed hrun _ _ _ hlog =>
      refine hc.of_course hlog ?_ ?_
      · rw [List.filterMap_cons]
        simp [EngineEvent.crashed?]
      · rintro run' hrun' hcrashed'
        rw [← Option.some.inj hrun'] at hcrashed' ⊢
        exact ⟨_, hrun, hcrashed', rfl⟩
  | crashed _ _ _ =>
      rintro run hrun hcrashed
      rw [← Option.some.inj hrun] at hcrashed
      cases hcrashed
  | detached _ _ _ => exact hc
  | ended _ _ _ _ _ =>
      rintro run hrun
      cases hrun

/-- A stream that starts now has no history. -/
theorem started_history (hn : e.Numbered) {board : β} {log : Array EngineEvent}
    (hlog : courseOf log = e.course) :
    (e.started board log).snapshotsOf (e.attempts + 1) = [] ∧
      (e.started board log).outcomesOf (e.attempts + 1) = [] := by
  obtain ⟨hticks, -, hcrashes⟩ := ticksOf_eq_nil (started_unheard hn board hlog)
  have hopen : (e.started board log).openTick? = none := rfl
  simp [snapshotsOf, outcomesOf, hticks, hcrashes, hopen]

/-- The inputs of a stream are those of its completed ticks, and of the one that crashed. -/
theorem zipWith_history (e : Engine β) (k : Nat) :
    List.zipWith TickInput.mk (e.snapshotsOf k) (e.outcomesOf k) =
      (e.ticksOf k).map TickRecord.input ++
        (ofStream k e.crashes).map fun tick => ⟨tick.snapshot, .crash⟩ := by
  have hzip : ∀ {α : Type} (f : α → Settings.Snapshot) (g : α → ReadOutcome) (l : List α),
      List.zipWith TickInput.mk (l.map f) (l.map g) = l.map fun a => ⟨f a, g a⟩ := by
    intro α f g l
    induction l with
    | nil => rfl
    | cons a l ih => exact congrArg (_ :: ·) ih
  have hlength : ((e.ticksOf k).map (·.snapshot) ++ (ofStream k e.crashes).map (·.snapshot)).length =
      (e.outcomesOf k).length := by
    simp [outcomesOf]
  rw [snapshotsOf, ← List.append_nil (e.outcomesOf k), List.zipWith_append hlength,
    List.zipWith_nil_right, List.append_nil, outcomesOf, List.zipWith_append (by simp), hzip, hzip]
  rfl

variable {run : Run}

/-- A tick that crashes adds its snapshot to those of the crashes. -/
theorem crash_history {tick : OpenTick} (hrun : e.run = some run)
    (hopen : run.openTick = some tick)
    (hcourse : e'.course = e.course ++ [.crashed run.stream tick]) (hnone : e'.openTick? = none) :
    e'.snapshotsOf k = e.snapshotsOf k ∧
      e'.outcomesOf k = e.outcomesOf k ++ ofStream k [(run.stream, .crash)] := by
  have hticked : e'.ticked = e.ticked := (ticked_of_course hcourse).trans (List.append_nil _)
  have hcrashes : e'.crashes = e.crashes ++ [(run.stream, tick)] := crashes_of_course hcourse
  have hopen' : e.openTick? = some (run.stream, tick) := by simp [openTick?, hrun, hopen]
  simp only [snapshotsOf, outcomesOf, ticksOf, hticked, hcrashes, hnone, hopen', ofStream_append]
  by_cases hk : run.stream = k <;> simp [hk]

/-- A completed tick takes its snapshot with it. -/
theorem completed_history {tick : OpenTick} {outcome : ReadOutcome} {result : TickResult}
    (hrun : e.run = some run) (hopen : run.openTick = some tick)
    (hcrashes : ofStream run.stream e.crashes = [])
    (hcourse : e'.course = e.course ++
      .ticked run.stream (run.sampler.recordOf tick outcome result) ::
        (run.sampler.signalsOf result).map (.published run.stream))
    (hnone : e'.openTick? = none) :
    e'.snapshotsOf k = e.snapshotsOf k ∧
      e'.outcomesOf k = e.outcomesOf k ++ ofStream k [(run.stream, outcome)] := by
  have hticked := (completed_views hcourse).1
  have hcrashes' : e'.crashes = e.crashes := by
    rw [crashes_of_course hcourse, List.filterMap_cons]
    simp [EngineEvent.crashed?]
  have hopen' : e.openTick? = some (run.stream, tick) := by simp [openTick?, hrun, hopen]
  simp only [snapshotsOf, outcomesOf, ticksOf, hticked, hcrashes', hnone, hopen', ofStream_append]
  by_cases hk : run.stream = k
  · -- The stream has not crashed, so the record comes where the open tick was.
    subst hk
    simp [hcrashes, Sampler.recordOf]
  · simp [hk]

section Board

variable [Board β]

/-- The first half of a tick takes the snapshot of the store. -/
theorem beginTick_history (lag : Duration) (hrun : e.run = some run)
    (hclosed : run.openTick = none) :
    (e.beginTick run lag).1.snapshotsOf k =
        e.snapshotsOf k ++ ofStream k [(run.stream, e.store.snapshot)] ∧
      (e.beginTick run lag).1.outcomesOf k = e.outcomesOf k := by
  obtain ⟨board, button, polled, log, signals, heq, -, -, hlog, -⟩ := beginTick_eq e run lag
  have hcourse : (e.beginTick run lag).1.course =
      e.course ++ signals.map (.published run.stream) := by
    rw [heq]
    exact hlog
  have hticked : (e.beginTick run lag).1.ticked = e.ticked := by
    simp [ticked_of_course hcourse]
  have hcrashes : (e.beginTick run lag).1.crashes = e.crashes := by
    simp [crashes_of_course hcourse]
  have hopen : (e.beginTick run lag).1.openTick? =
      some (run.stream, ⟨e.store.snapshot, polled, lag⟩) := by
    rw [heq]
    rfl
  have hnone : e.openTick? = none := by
    simp [openTick?, hrun, hclosed]
  simp only [snapshotsOf, outcomesOf, ticksOf, hticked, hcrashes, hopen, hnone, Option.toList_some,
    Option.toList_none, ofStream_singleton, ofStream_nil, List.map_nil, List.append_nil, and_true]
  by_cases hk : run.stream = k
  · simp [hk]
  · simp [hk]

/-- A crash is the only end of a read that brings no result. -/
theorem outcome_eq_crash {s : Sampler} {snapshot : Settings.Snapshot} {outcome : ReadOutcome}
    (h : s.result? snapshot outcome = none) : outcome = .crash := by
  cases outcome with
  | row raw => cases h
  | fault f => cases h
  | crash => rfl

/-- The second half of a tick takes what the board answers. -/
theorem endTick_history {tick : OpenTick} (hrun : e.run = some run)
    (hopen : run.openTick = some tick) (hcrashes : ofStream run.stream e.crashes = []) :
    (e.endTick run tick).1.snapshotsOf k = e.snapshotsOf k ∧
      (e.endTick run tick).1.outcomesOf k = e.outcomesOf k ++
        ofStream k [(run.stream, (Board.read e.config.readTimeout e.board).2)] := by
  cases hresult : run.sampler.result? tick.snapshot (Board.read e.config.readTimeout e.board).2 with
  | none =>
      obtain ⟨board, clock, log, hlog, -, hleaves⟩ := endTick_of_crash hresult
      have huneventful := hleaves.uneventful rfl rfl
      rw [outcome_eq_crash hresult, huneventful.history.1, huneventful.history.2]
      exact crash_history hrun hopen hlog rfl
  | some result =>
      obtain ⟨board, clock, late, deadline, log, -, hlog, -, hleaves⟩ := endTick_of_result hresult
      have huneventful := hleaves.uneventful rfl rfl
      rw [huneventful.history.1, huneventful.history.2]
      exact completed_history hrun hopen hcrashes hlog rfl

end Board

end Engine

end QuadDaq

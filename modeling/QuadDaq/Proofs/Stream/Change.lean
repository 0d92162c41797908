import Mathlib.Logic.Relation
import QuadDaq.Proofs.Settings.Commit
import QuadDaq.Proofs.Stream.Course

/-!
# Changes of an engine

**Everything that can become of an engine, as a relation.** A board may answer with
anything, so the relation leaves open what the board, the clock and the schedule
become, and says of the rest exactly how it is updated.

* Every function of the engine is a sequence of changes: `start_cases`,
  `stop_eq_of_running`, `beginTick_half`, `endTick_half`.
* `Starts` is how a start can end. What a start does or leaves alone is read off it.
* An invariant of engines is proved for one change and follows for every run
  (`Relation.ReflTransGen`).
* `Coherent` ties the custody of the board to the phase and to the run. The other
  invariants do not repeat it.
-/

namespace QuadDaq

open Relation (ReflTransGen)

/-- What is recorded of a tick that the sampler completes. -/
def Sampler.recordOf (s : Sampler) (tick : OpenTick) (outcome : ReadOutcome)
    (result : TickResult) : TickRecord where
  snapshot := tick.snapshot
  polled := tick.polled
  guarded := s.isGuarded
  outcome := outcome
  result := result

/-- What is published at the end of a tick: its error report, and the batch that it
completes. -/
def Sampler.signalsOf (s : Sampler) (result : TickResult) : List Signal :=
  Engine.reportOf result ++ ((s.advance result).2.map Signal.batch).toList

/-- The run after a tick that brought a result. -/
def Run.completed (run : Run) (result : TickResult) (deadline : Nat) : Run :=
  { run with sampler := (run.sampler.advance result).1, openTick := none, deadline := deadline }

/-- The counters after a tick that brought a result, when so many ticks were late. -/
def TickCounters.settled (c : TickCounters) (result : TickResult) (late : Nat) : TickCounters :=
  { c.add result with late := late }

namespace Engine

variable {β : Type}

/-- The first half of a tick, with what the board and the button make of it. -/
def opened (e : Engine β) (run : Run) (board : β) (button : Option Debouncer)
    (polled : Option Bool) (lag : Duration) (log : Array EngineEvent) : Engine β :=
  { e with
    board := board
    button := button
    run := some { run with
      sampler := run.sampler.observe e.store.snapshot.bridgeEpoch
      openTick := some ⟨e.store.snapshot, polled, lag⟩ }
    log := log }

/-- The run of a stream that starts now. -/
def newRun (e : Engine β) : Run where
  stream := e.attempts + 1
  sampler := .start e.plan e.store.snapshot.bridgeEpoch
  period := Pace.period e.store.shape.sampleRate
  deadline := e.clock.elapsed

/-- The engine after a start, with what the board makes of it. -/
def started (e : Engine β) (board : β) (log : Array EngineEvent) : Engine β :=
  { e with
    board := board
    log := log
    phase := .running
    custody := .sampling
    latestRate := e.store.shape.sampleRate
    attempts := e.attempts + 1
    store := e.store.freeze
    run := some e.newRun }

/-- What can become of an engine. -/
inductive Change : Engine β → Engine β → Prop
  /-- The board was called, or changed by itself. -/
  | quiet {e : Engine β} {board : β} {log : Array EngineEvent} :
      courseOf log = e.course →
      Change e { e with board := board, log := log }
  /-- A settings command was carried out. -/
  | wrote {e : Engine β} {store : Settings.Store} {command : Settings.Command} :
      command.run e.store = .ok store →
      Change e { e with store := store }
  /-- An attempt to start a stream came to nothing. -/
  | attempted {e : Engine β} {board : β} {log : Array EngineEvent} {phase : Phase}
      {custody : Custody} {rate : Nat} {frozen : Bool} :
      e.phase = .stopped →
      phase ≠ .running →
      custody = e.custody ∨ e.custody = .parked ∧ custody = .lost →
      courseOf log = e.course →
      Change e { e with
        board := board
        log := log
        phase := phase
        custody := custody
        latestRate := rate
        attempts := e.attempts + 1
        store := { e.store with frozen := frozen } }
  /-- A stream was started. -/
  | started {e : Engine β} {board : β} {log : Array EngineEvent} :
      e.phase = .stopped →
      e.custody = .parked →
      courseOf log = e.course →
      Change e (e.started board log)
  /-- A tick began. -/
  | opened {e : Engine β} {run : Run} {board : β} {button : Option Debouncer}
      {polled : Option Bool} {lag : Duration} {log : Array EngineEvent} {signals : List Signal} :
      e.phase = .running →
      e.run = some run →
      run.openTick = none →
      run.crashed = false →
      button.isSome = e.button.isSome →
      polled.isSome = (e.button.isSome && run.sampler.pollsButton) →
      courseOf log = e.course ++ signals.map (.published run.stream) →
      (∀ s ∈ signals, s.batch? = none) →
      Change e (e.opened run board button polled lag log)
  /-- A tick was completed. -/
  | completed {e : Engine β} {run : Run} {tick : OpenTick} {outcome : ReadOutcome}
      {result : TickResult} {board : β} {clock : ManualClock} {late deadline : Nat}
      {log : Array EngineEvent} :
      e.run = some run →
      run.openTick = some tick →
      run.sampler.result? tick.snapshot outcome = some result →
      e.counters.late ≤ late →
      courseOf log = e.course ++ .ticked run.stream (run.sampler.recordOf tick outcome result) ::
        (run.sampler.signalsOf result).map (.published run.stream) →
      Change e { e with
        board := board
        clock := clock
        counters := e.counters.settled result late
        run := some (run.completed result deadline)
        log := log }
  /-- A read took its stream down. -/
  | crashed {e : Engine β} {run : Run} {tick : OpenTick} {board : β} {clock : ManualClock}
      {log : Array EngineEvent} :
      e.run = some run →
      run.openTick = some tick →
      courseOf log = e.course ++ [.crashed run.stream tick] →
      Change e { e with
        board := board
        clock := clock
        run := some { run with openTick := none, crashed := true }
        log := log }
  /-- A stream was stopped in the middle of a read. -/
  | detached {e : Engine β} {run : Run} :
      e.phase = .running →
      e.run = some run →
      run.openTick.isSome →
      Change e { e with phase := .stopped, custody := .awaited, store := e.store.release }
  /-- A stream came to its end between two ticks. -/
  | ended {e : Engine β} {run : Run} {board : β} {phase : Phase} {custody : Custody}
      {frozen : Bool} {log : Array EngineEvent} :
      e.run = some run →
      run.openTick = none →
      phase ≠ .running →
      custody = .parked ∨ custody = .lost →
      courseOf log = e.course ++ [.abandoned run.stream run.sampler.pending] →
      Change e { e with
        board := board
        phase := phase
        custody := custody
        store := { e.store with frozen := frozen }
        run := none
        log := log }

/-! ### Coherence -/

/-- The custody of the board agrees with the phase and with the run. -/
structure Coherent (e : Engine β) : Prop where
  sampling : e.phase = .running ↔ e.custody = .sampling
  running : e.run.isSome ↔ e.custody = .sampling ∨ e.custody = .awaited
  crashed : ∀ run, e.run = some run → run.crashed → run.openTick = none

theorem Coherent.run_eq_none {e : Engine β} (hc : e.Coherent) (hparked : e.custody = .parked) :
    e.run = none := by
  rw [← Option.not_isSome_iff_eq_none, hc.running, hparked]
  simp

theorem Coherent.not_running {e : Engine β} (hc : e.Coherent) (hawaited : e.custody = .awaited) :
    e.phase ≠ .running := by
  rw [ne_eq, hc.sampling, hawaited]
  simp

/-- A run in the middle of a read has not crashed. -/
theorem Coherent.not_crashed {e : Engine β} (hc : e.Coherent) {run : Run} {tick : OpenTick}
    (hrun : e.run = some run) (hopen : run.openTick = some tick) : run.crashed = false := by
  cases hcrashed : run.crashed with
  | false => rfl
  | true =>
      rw [hc.crashed run hrun hcrashed] at hopen
      cases hopen

theorem Change.coherent {e e' : Engine β} (h : Change e e') (hc : e.Coherent) : e'.Coherent := by
  obtain ⟨hsampling, hrunning, hcrashed⟩ := hc
  cases h with
  | quiet _ => exact ⟨hsampling, hrunning, hcrashed⟩
  | wrote _ => exact ⟨hsampling, hrunning, hcrashed⟩
  | attempted hphase hne hcustody _ =>
      -- A start that is broken off after arming loses the board, which was parked before.
      rcases hcustody with rfl | ⟨hparked, rfl⟩
      · exact ⟨by simp_all, hrunning, hcrashed⟩
      · exact ⟨by simp_all, by simp_all, hcrashed⟩
  | started _ _ _ => exact ⟨by simp [Engine.started], by simp [Engine.started], by simp [Engine.started, newRun]⟩
  | opened hphase hrun _ hrc _ _ _ _ =>
      exact ⟨hsampling, by simp [Engine.opened, hsampling.mp hphase], by simp [Engine.opened, hrc]⟩
  | completed hrun _ _ _ _ =>
      exact ⟨hsampling, by simp_all, by simp [Run.completed]⟩
  | crashed hrun _ _ => exact ⟨hsampling, by simp_all, by simp⟩
  | detached hphase hrun _ => exact ⟨by simp, by simp [hrun], hcrashed⟩
  | ended _ _ hphase hcustody _ =>
      refine ⟨?_, ?_, by simp⟩ <;> rcases hcustody with rfl | rfl <;> simp [hphase]

/-! ### What changes keep -/

theorem Change.config_eq {e e' : Engine β} (h : Change e e') : e'.config = e.config := by
  cases h <;> rfl

/-- Only a stop in the middle of a read leaves a board that is awaited. -/
theorem Change.custody {e e' : Engine β} (h : Change e e') (hawaited : e'.custody = .awaited) :
    e.custody = .awaited ∨ e.phase = .running ∧ e'.phase = .stopped := by
  cases h with
  | quiet _ => exact .inl hawaited
  | wrote _ => exact .inl hawaited
  | attempted _ _ hcustody _ =>
      rcases hcustody with rfl | ⟨-, rfl⟩
      · exact .inl hawaited
      · cases hawaited
  | started _ _ _ => cases hawaited
  | opened _ _ _ _ _ _ _ _ => exact .inl hawaited
  | completed _ _ _ _ _ => exact .inl hawaited
  | crashed _ _ _ => exact .inl hawaited
  | detached hphase _ _ => exact .inr ⟨hphase, rfl⟩
  | ended _ _ _ hcustody _ => rcases hcustody with rfl | rfl <;> cases hawaited

theorem Change.batchRows_pos {e e' : Engine β} (h : Change e e')
    (hpos : 0 < e.store.shape.batchRows) : 0 < e'.store.shape.batchRows := by
  cases h with
  | wrote hrun => exact Settings.Command.run_batchRows_pos hrun hpos
  | _ => exact hpos

/-! ### Numbers of streams -/

/-- Streams are numbered by the attempts to start one, so the next number is new. -/
structure Numbered (e : Engine β) : Prop where
  course : ∀ event ∈ e.course, ∀ k, event.stream? = some k → k ≤ e.attempts
  run : ∀ run, e.run = some run → run.stream ≤ e.attempts

theorem Change.attempts_le {e e' : Engine β} (h : Change e e') : e.attempts ≤ e'.attempts := by
  cases h <;> first | exact Nat.le_refl _ | exact Nat.le_succ _

/-- A change adds to the course, and tells there of no stream but the one that runs. -/
theorem Change.course_eq {e e' : Engine β} (h : Change e e') :
    ∃ added, e'.course = e.course ++ added ∧
      ∀ event ∈ added, ∃ run, e.run = some run ∧ event.stream? = some run.stream := by
  cases h with
  | quiet hlog => exact ⟨[], hlog.trans (List.append_nil _).symm, by simp⟩
  | wrote _ => exact ⟨[], by simp [course], by simp⟩
  | attempted _ _ _ hlog => exact ⟨[], hlog.trans (List.append_nil _).symm, by simp⟩
  | started _ _ hlog => exact ⟨[], hlog.trans (List.append_nil _).symm, by simp⟩
  | opened _ hrun _ _ _ _ hlog _ =>
      refine ⟨_, hlog, ?_⟩
      intro event hevent
      obtain ⟨s, _, rfl⟩ := List.mem_map.mp hevent
      exact ⟨_, hrun, rfl⟩
  | completed hrun _ _ _ hlog =>
      refine ⟨_, hlog, ?_⟩
      intro event hevent
      rcases List.mem_cons.mp hevent with rfl | hevent
      · exact ⟨_, hrun, rfl⟩
      · obtain ⟨s, _, rfl⟩ := List.mem_map.mp hevent
        exact ⟨_, hrun, rfl⟩
  | crashed hrun _ hlog => exact ⟨_, hlog, by simp [hrun, EngineEvent.stream?]⟩
  | detached _ _ _ => exact ⟨[], by simp [course], by simp⟩
  | ended hrun _ _ _ hlog => exact ⟨_, hlog, by simp [hrun, EngineEvent.stream?]⟩

/-- A change keeps the number of the stream that runs, or starts a new one. -/
theorem Change.run_stream {e e' : Engine β} (h : Change e e') {run' : Run}
    (hrun' : e'.run = some run') :
    (∃ run, e.run = some run ∧ run'.stream = run.stream) ∨
      (run' = e.newRun ∧ e'.attempts = e.attempts + 1) := by
  cases h with
  | quiet _ => exact .inl ⟨run', hrun', rfl⟩
  | wrote _ => exact .inl ⟨run', hrun', rfl⟩
  | attempted _ _ _ _ => exact .inl ⟨run', hrun', rfl⟩
  | started _ _ _ => exact .inr ⟨(Option.some.inj hrun').symm, rfl⟩
  | opened _ hrun _ _ _ _ _ _ => exact .inl ⟨_, hrun, by rw [← Option.some.inj hrun']⟩
  | completed hrun _ _ _ _ => exact .inl ⟨_, hrun, by rw [← Option.some.inj hrun']; rfl⟩
  | crashed hrun _ _ => exact .inl ⟨_, hrun, by rw [← Option.some.inj hrun']⟩
  | detached _ _ _ => exact .inl ⟨run', hrun', rfl⟩
  | ended _ _ _ _ _ => exact absurd hrun' (by simp)

theorem Change.numbered {e e' : Engine β} (h : Change e e') (hn : e.Numbered) : e'.Numbered := by
  obtain ⟨added, hcourse, hadded⟩ := h.course_eq
  constructor
  · intro event hevent k hk
    rw [hcourse] at hevent
    rcases List.mem_append.mp hevent with hold | hnew
    · exact Nat.le_trans (hn.course event hold k hk) h.attempts_le
    · -- What is added tells of the run, and its number is not new.
      obtain ⟨run, hrun, hstream⟩ := hadded event hnew
      rw [hk, Option.some.injEq] at hstream
      rw [hstream]
      exact Nat.le_trans (hn.run run hrun) h.attempts_le
  · intro run' hrun'
    rcases h.run_stream hrun' with ⟨run, hrun, hstream⟩ | ⟨rfl, hattempts⟩
    · rw [hstream]
      exact Nat.le_trans (hn.run run hrun) h.attempts_le
    · rw [hattempts]
      exact Nat.le_refl _

/-! ### Ticks -/

/-- Between the engines no tick began or ended, and nothing was published. -/
structure Uneventful (e e' : Engine β) : Prop where
  published : e'.published = e.published
  ticked : e'.ticked = e.ticked
  crashes : e'.crashes = e.crashes
  openTick : e'.openTick? = e.openTick?

theorem Uneventful.of_course {e e' : Engine β} (hcourse : e'.course = e.course)
    (hrun : e'.openTick? = e.openTick?) : e.Uneventful e' :=
  ⟨congrArg (List.filterMap _) hcourse, congrArg (List.filterMap _) hcourse,
    congrArg (List.filterMap _) hcourse, hrun⟩

/-- The end of a run between two ticks. -/
theorem Uneventful.of_ended {e e' : Engine β} {run : Run} {rows : Array Row}
    (hrun : e.run = some run) (hclosed : run.openTick = none) (hrun' : e'.run = none)
    (hcourse : e'.course = e.course ++ [.abandoned run.stream rows]) : e.Uneventful e' := by
  refine ⟨?_, ?_, ?_, ?_⟩
  · exact (published_of_course hcourse).trans (List.append_nil _)
  · exact (ticked_of_course hcourse).trans (List.append_nil _)
  · exact (crashes_of_course hcourse).trans (List.append_nil _)
  · simp [openTick?, hrun, hrun', hclosed]

/-- Half a tick of a run leads from one engine to another and publishes these signals. -/
structure HalfTick (run : Run) (e e' : Engine β) (signals : List Signal) : Prop where
  changes : ReflTransGen Change e e'
  published : e'.published = e.published ++ signals.map (Prod.mk run.stream)
  phase : e'.phase = e.phase
  stream : ∀ run', e'.run = some run' → run'.stream = run.stream
  custody : e'.custody = .awaited → e.custody = .awaited
  batches : (signals.filterMap Signal.batch?).length ≤ 1

/-- The batches that the end of a tick publishes are the one that it completes. -/
theorem filterMap_batch?_signalsOf (s : Sampler) (result : TickResult) :
    (s.signalsOf result).filterMap Signal.batch? = (s.advance result).2.toList := by
  have hreport : (reportOf result).filterMap Signal.batch? = [] := by
    cases result <;> simp [reportOf, Signal.batch?]
  rw [Sampler.signalsOf, List.filterMap_append, hreport, List.nil_append]
  cases (s.advance result).2 <;> simp [Signal.batch?]

/-- Settling a tick counts and notes what it brought, and publishes its signals. -/
theorem settle_eq (e : Engine β) (run : Run) (tick : OpenTick) (outcome : ReadOutcome)
    (result : TickResult) :
    ∃ log, e.settle run tick outcome result =
        ({ e with counters := e.counters.add result, log := log },
          { run with sampler := (run.sampler.advance result).1, openTick := none },
          run.sampler.signalsOf result) ∧
      courseOf log = e.course ++ .ticked run.stream (run.sampler.recordOf tick outcome result) ::
        (run.sampler.signalsOf result).map (.published run.stream) := by
  obtain ⟨log, hemit, hlog⟩ := emit_eq run.stream (run.sampler.signalsOf result)
    (({ e with counters := e.counters.add result } : Engine β).note
      (.ticked run.stream (run.sampler.recordOf tick outcome result)))
  refine ⟨log, ?_, ?_⟩
  · exact congrArg (fun e => (e,
      ({ run with sampler := (run.sampler.advance result).1, openTick := none } : Run),
      run.sampler.signalsOf result)) hemit
  · rw [hlog]
    simp [course, note, EngineEvent.isCall]

/-- Pacing moves the clock or starts the schedule over. -/
theorem pace_eq (e : Engine β) (run : Run) :
    ∃ clock late deadline log, e.pace run =
        ({ e with clock := clock, counters := { e.counters with late := late }, log := log },
          { run with deadline := deadline }) ∧
      e.counters.late ≤ late ∧ courseOf log = e.course := by
  unfold pace
  obtain ⟨deadline, late⟩ := Pace.nextDeadline run.deadline e.clock.elapsed run.period
  cases late with
  | true => exact ⟨e.clock, e.counters.late + 1, deadline, e.log, rfl, Nat.le_succ _, rfl⟩
  | false =>
      exact ⟨_, e.counters.late, deadline, _, rfl, Nat.le_refl _, by simp [course, EngineEvent.isCall]⟩

/-- A run that ends without its board. -/
theorem endRun_eq (e : Engine β) (run : Run) (custody : Custody) :
    ∃ log, e.endRun run custody = { e with custody := custody, run := none, log := log } ∧
      courseOf log = e.course ++ [.abandoned run.stream run.sampler.pending] :=
  ⟨_, rfl, by simp [course, EngineEvent.isCall]⟩

/-- A run that was stopped during its tick ends with it, another one goes on. -/
inductive Leaves (run : Run) (e : Engine β) : Engine β → Prop
  | goesOn : Leaves run e e
  | ends {board : β} {custody : Custody} {log : Array EngineEvent} :
      e.custody = .awaited →
      custody = .parked ∨ custody = .lost →
      courseOf log = e.course ++ [.abandoned run.stream run.sampler.pending] →
      Leaves run e { e with board := board, custody := custody, run := none, log := log }

theorem Leaves.uneventful {run : Run} {e e' : Engine β} (h : Leaves run e e')
    (hrun : e.run = some run) (hclosed : run.openTick = none) : e.Uneventful e' := by
  cases h with
  | goesOn => exact .of_course rfl rfl
  | ends _ _ hlog => exact .of_ended hrun hclosed rfl hlog

/-- Half a tick that is one change, after which the run goes on or ends. -/
theorem HalfTick.of_leaves {run run₁ : Run} {e e₁ e' : Engine β} {signals : List Signal}
    (hchange : Change e e₁) (hphase : e.custody = .awaited → e.phase ≠ .running)
    (hleaves : Leaves run₁ e₁ e') (hcustody : e₁.custody = e.custody) (hphase₁ : e₁.phase = e.phase)
    (hrun₁ : e₁.run = some run₁) (hclosed : run₁.openTick = none) (hstream : run₁.stream = run.stream)
    (hpublished : e₁.published = e.published ++ signals.map (Prod.mk run.stream))
    (hbatches : (signals.filterMap Signal.batch?).length ≤ 1) : HalfTick run e e' signals := by
  have huneventful := hleaves.uneventful hrun₁ hclosed
  cases hleaves with
  | goesOn =>
      refine ⟨.single hchange, hpublished, hphase₁, ?_, fun h => hcustody ▸ h, hbatches⟩
      intro run' hrun'
      rw [← Option.some.inj (hrun₁.symm.trans hrun'), hstream]
  | ends hawaited hend hlog =>
      -- The run was stopped during the tick, so no stream runs any more.
      have hne : e₁.phase ≠ .running := by
        rw [hphase₁]
        exact hphase (hcustody ▸ hawaited)
      refine ⟨.tail (.single hchange) (.ended hrun₁ hclosed hne hend hlog), ?_, hphase₁, ?_, ?_,
        hbatches⟩
      · exact huneventful.published.trans hpublished
      · intro run' hrun'
        cases hrun'
      · rintro rfl
        simp at hend

section Board

variable [Board β]

/-- A run that ends with its board handed back. -/
theorem handBack_eq (e : Engine β) (run : Run) :
    ∃ board log, e.handBack run =
        { e with board := board, custody := .parked, run := none, log := log } ∧
      courseOf log = e.course ++ [.abandoned run.stream run.sampler.pending] :=
  ⟨_, _, rfl, by simp [course, setMeasuring, note, EngineEvent.isCall]⟩

/-- The second half of a tick whose read brings no result. -/
theorem endTick_of_crash {e : Engine β} {run : Run} {tick : OpenTick}
    (h : run.sampler.result? tick.snapshot (Board.read e.config.readTimeout e.board).2 = none) :
    ∃ board clock log, courseOf log = e.course ++ [.crashed run.stream tick] ∧
      (e.endTick run tick).2 = [] ∧
      Leaves { run with openTick := none, crashed := true }
        { e with
          board := board
          clock := clock
          run := some { run with openTick := none, crashed := true }
          log := log } (e.endTick run tick).1 := by
  refine ⟨(Board.read e.config.readTimeout e.board).1, e.clock.advance tick.lag,
    e.log.push (.crashed run.stream tick), by simp [course, EngineEvent.isCall], ?_, ?_⟩
  · simp only [endTick, h]
  · simp only [endTick, h]
    split
    · next hcustody => exact .ends hcustody (.inr rfl) (by simp [course, note, EngineEvent.isCall])
    · exact .goesOn

/-- The second half of a tick whose read brings a result. -/
theorem endTick_of_result {e : Engine β} {run : Run} {tick : OpenTick} {result : TickResult}
    (h : run.sampler.result? tick.snapshot (Board.read e.config.readTimeout e.board).2 =
      some result) :
    ∃ board clock late deadline log, e.counters.late ≤ late ∧
      courseOf log = e.course ++
        .ticked run.stream
          (run.sampler.recordOf tick (Board.read e.config.readTimeout e.board).2 result) ::
        (run.sampler.signalsOf result).map (.published run.stream) ∧
      (e.endTick run tick).2 = run.sampler.signalsOf result ∧
      Leaves (run.completed result deadline)
        { e with
          board := board
          clock := clock
          counters := e.counters.settled result late
          run := some (run.completed result deadline)
          log := log } (e.endTick run tick).1 := by
  obtain ⟨log₁, hsettle, hlog₁⟩ := settle_eq
    { e with
      board := (Board.read e.config.readTimeout e.board).1
      clock := e.clock.advance tick.lag } run tick (Board.read e.config.readTimeout e.board).2 result
  obtain ⟨clock, late, deadline, log, hpace, hlate, hlog⟩ := pace_eq
    ({ e with
      board := (Board.read e.config.readTimeout e.board).1
      clock := e.clock.advance tick.lag
      counters := e.counters.add result
      log := log₁ } : Engine β)
    { run with sampler := (run.sampler.advance result).1, openTick := none }
  refine ⟨(Board.read e.config.readTimeout e.board).1, clock, late, deadline, log, ?_,
    hlog.trans hlog₁, ?_, ?_⟩
  · refine Nat.le_trans ?_ hlate
    cases result <;> exact Nat.le_refl _
  · simp only [endTick, h, hsettle, hpace]
  · simp only [endTick, h, hsettle, hpace]
    split
    · next hcustody =>
        exact .ends hcustody (.inl rfl) (by
          simp [course, setMeasuring, note, EngineEvent.isCall, Run.completed])
    · exact .goesOn

/-! ### Lifecycle -/

theorem arm_eq (e : Engine β) :
    ∃ board log result, e.arm = ({ e with board := board, log := log }, result) ∧
      courseOf log = e.course := by
  unfold arm
  simp only [setMeasuring, selectBridge, note]
  obtain ⟨board₁, on⟩ := Board.setMeasuring true e.board
  cases on with
  | error f => exact ⟨board₁, _, _, rfl, by simp [course, EngineEvent.isCall]⟩
  | ok u =>
      simp only
      obtain ⟨board₂, routed⟩ := Board.selectBridge e.store.snapshot.bridge board₁
      cases routed with
      | error f => exact ⟨_, _, _, rfl, by simp [course, EngineEvent.isCall]⟩
      | ok u => exact ⟨board₂, _, _, rfl, by simp [course, EngineEvent.isCall]⟩

/-- The engine as a start begins. -/
def attempted (e : Engine β) : Engine β :=
  { e with phase := .starting, attempts := e.attempts + 1, store := e.store.freeze }

/-- The engine as a start has the board. -/
def retimed (e : Engine β) : Engine β := { e with latestRate := e.store.shape.sampleRate }

theorem start_eq (e : Engine β) (hphase : e.phase = .stopped) :
    e.start =
      match Pace.stopGrace? e.config.readTimeout e.latestRate with
      | none => (e.attempted, .brokenOff)
      | some _ =>
        match Custody.obstacle? e.custody with
        | some error => (e.attempted.abandonStart, .refused error)
        | none =>
          match e.attempted.retimed.arm with
          | (e, .error fault) => (e.abandonStart, .refused fault.toError)
          | (e, .ok ()) =>
            match Pace.stopGrace? e.config.readTimeout e.latestRate with
            | none => ({ e with custody := .lost }, .brokenOff)
            | some _ => (e.launch, .done) := by
  have hstopped : ¬e.phase ≠ .stopped := by simp [hphase]
  rw [start, if_neg hstopped]
  rfl

/-- How a start can end. -/
inductive Starts (e : Engine β) : Engine β × Outcome → Prop
  /-- It is refused outright. -/
  | denied :
      e.phase ≠ .stopped →
      Starts e (e, .refused .alreadyRunning)
  /-- The waits of the latest stream are not representable. -/
  | unwaitable :
      e.phase = .stopped →
      Starts e (e.attempted, .brokenOff)
  /-- The board cannot be had. -/
  | obstructed (error : DriverError) :
      e.phase = .stopped →
      Starts e (e.attempted.abandonStart, .refused error)
  /-- The board cannot be armed. -/
  | unarmed {armed : Engine β} {fault : BoardFault} :
      e.phase = .stopped →
      e.custody = .parked →
      e.attempted.retimed.arm = (armed, .error fault) →
      Starts e (armed.abandonStart, .refused fault.toError)
  /-- The board is armed, but the waits of the new stream are not representable. -/
  | brokenOff {armed : Engine β} :
      e.phase = .stopped →
      e.custody = .parked →
      e.attempted.retimed.arm = (armed, .ok ()) →
      Starts e ({ armed with custody := .lost }, .brokenOff)
  | launched {armed : Engine β} :
      e.phase = .stopped →
      e.custody = .parked →
      e.attempted.retimed.arm = (armed, .ok ()) →
      Starts e (armed.launch, .done)

theorem start_ends (e : Engine β) : e.Starts e.start := by
  by_cases hphase : e.phase = .stopped
  · rw [start_eq e hphase]
    cases Pace.stopGrace? e.config.readTimeout e.latestRate with
    | none => exact .unwaitable hphase
    | some wait =>
        cases hcustody : e.custody with
        | parked =>
            rcases harm : e.attempted.retimed.arm with ⟨armed, fault | _⟩
            · exact .unarmed hphase hcustody harm
            · simp only [Custody.obstacle?]
              split
              · exact .brokenOff hphase hcustody harm
              · exact .launched hphase hcustody harm
        | sampling => exact .obstructed _ hphase
        | awaited => exact .obstructed _ hphase
        | lost => exact .obstructed _ hphase
  · rw [start, if_pos hphase]
    exact .denied hphase

/-- A start is refused, or fails, or starts a stream. -/
theorem start_cases (e : Engine β) :
    (e.phase ≠ .stopped ∧ e.start = (e, .refused .alreadyRunning)) ∨
    (e.phase = .stopped ∧ ∃ e' outcome, e.start = (e', outcome) ∧ outcome ≠ .done ∧ Change e e' ∧
      e'.course = e.course ∧ e'.run = e.run ∧ e'.phase ≠ .running) ∨
    (e.phase = .stopped ∧ e.custody = .parked ∧ ∃ board log, courseOf log = e.course ∧
      e.start = (e.started board log, .done)) := by
  obtain ⟨board, log, result, harm', hlog⟩ := arm_eq e.attempted.retimed
  have hends := e.start_ends
  generalize e.start = ending at hends ⊢
  cases hends with
  | denied hphase => exact .inl ⟨hphase, rfl⟩
  | unwaitable hphase =>
      exact .inr (.inl ⟨hphase, _, _, rfl, by simp, .attempted hphase (by simp) (.inl rfl) rfl,
        rfl, rfl, by simp [attempted]⟩)
  | obstructed error hphase =>
      exact .inr (.inl ⟨hphase, _, _, rfl, by simp, .attempted hphase (by simp) (.inl rfl) rfl,
        rfl, rfl, by simp [abandonStart]⟩)
  | unarmed hphase hparked harm =>
      cases harm.symm.trans harm'
      exact .inr (.inl ⟨hphase, _, _, rfl, by simp, .attempted hphase (by simp) (.inl rfl) hlog,
        hlog, rfl, by simp [abandonStart]⟩)
  | brokenOff hphase hparked harm =>
      cases harm.symm.trans harm'
      exact .inr (.inl ⟨hphase, _, _, rfl, by simp,
        .attempted hphase (by simp [attempted, retimed]) (.inr ⟨hparked, rfl⟩) hlog, hlog, rfl,
        by simp [attempted, retimed]⟩)
  | launched hphase hparked harm =>
      cases harm.symm.trans harm'
      exact .inr (.inr ⟨hphase, hparked, board, log, hlog, rfl⟩)

/-- A stop is refused unless a stream runs. -/
theorem stop_eq_of_ne {e : Engine β} (h : e.phase ≠ .running) :
    e.stop = (e, .refused .notRunning) := by
  cases hphase : e.phase with
  | running => exact absurd hphase h
  | stopped => simp only [stop, hphase]
  | starting => simp only [stop, hphase]

/-- A stop of a running stream ends it, unless it falls into an open read. -/
theorem stop_eq_of_running {e : Engine β} (hc : e.Coherent) (hphase : e.phase = .running) :
    ∃ e', e.stop = (e', .done) ∧ Change e e' ∧ e'.phase = .stopped ∧ e.Uneventful e' ∧
      (e'.run = none ∨ ∃ run, e.run = some run ∧ run.openTick.isSome ∧ e'.run = some run) := by
  unfold stop
  split
  · next run _ hrun =>
      by_cases hcrashed : run.crashed
      · obtain ⟨log, hend, hlog⟩ := endRun_eq e run .lost
        rw [if_pos hcrashed, hend]
        -- A crash has closed the tick, so this end is one between two ticks.
        have hclosed := hc.crashed run hrun hcrashed
        exact ⟨_, rfl, .ended hrun hclosed (by simp) (.inr rfl) hlog, rfl,
          .of_ended hrun hclosed rfl hlog, .inl rfl⟩
      · rw [if_neg hcrashed]
        by_cases hopen : run.openTick.isSome
        · rw [if_pos hopen]
          exact ⟨_, rfl, .detached hphase hrun hopen, rfl, .of_course rfl rfl,
            .inr ⟨run, hrun, hopen, hrun⟩⟩
        · obtain ⟨board, log, hback, hlog⟩ := handBack_eq e run
          rw [if_neg hopen, hback]
          have hclosed : run.openTick = none := by simpa using hopen
          exact ⟨_, rfl, .ended hrun hclosed (by simp) (.inl rfl) hlog, rfl,
            .of_ended hrun hclosed rfl hlog, .inl rfl⟩
  · -- There is a run as long as the engine is running.
    next hne =>
      obtain ⟨run, hrun⟩ :=
        Option.isSome_iff_exists.mp (hc.running.mpr (.inl (hc.sampling.mp hphase)))
      exact absurd hrun (hne run hphase)

/-- The first half of a tick opens it. -/
theorem beginTick_half {e : Engine β} {run : Run} (lag : Duration) (hphase : e.phase = .running)
    (hrun : e.run = some run) (hclosed : run.openTick = none) (hcrashed : run.crashed = false) :
    HalfTick run e (e.beginTick run lag).1 (e.beginTick run lag).2 := by
  obtain ⟨board, button, polled, log, signals, heq, hbutton, hpolled, hlog, hbatch⟩ :=
    beginTick_eq e run lag
  rw [heq]
  refine ⟨.single (.opened hphase hrun hclosed hcrashed hbutton hpolled hlog hbatch), ?_, rfl, ?_,
    id, ?_⟩
  · simp [published, course, hlog]
  · rintro run' hrun'
    rw [← Option.some.inj hrun']
  · rw [List.filterMap_eq_nil_iff.mpr hbatch]
    exact Nat.zero_le _

/-- The end of a tick publishes one batch at most. -/
theorem length_batches_signalsOf (s : Sampler) (result : TickResult) :
    ((s.signalsOf result).filterMap Signal.batch?).length ≤ 1 := by
  rw [filterMap_batch?_signalsOf]
  cases (s.advance result).2 <;> simp

/-- The second half of a tick completes it or crashes, and ends the stream if it was
stopped meanwhile. -/
theorem endTick_half {e : Engine β} {run : Run} {tick : OpenTick} (hrun : e.run = some run)
    (hopen : run.openTick = some tick) (hphase : e.custody = .awaited → e.phase ≠ .running) :
    HalfTick run e (e.endTick run tick).1 (e.endTick run tick).2 := by
  cases hresult : run.sampler.result? tick.snapshot (Board.read e.config.readTimeout e.board).2 with
  | none =>
      obtain ⟨board, clock, log, hlog, hsignals, hleaves⟩ := endTick_of_crash hresult
      rw [hsignals]
      refine .of_leaves (.crashed hrun hopen hlog) hphase hleaves rfl rfl rfl rfl rfl ?_ (by simp)
      simp [published, course, hlog, EngineEvent.published?]
  | some result =>
      obtain ⟨board, clock, late, deadline, log, hlate, hlog, hsignals, hleaves⟩ :=
        endTick_of_result hresult
      rw [hsignals]
      refine .of_leaves (.completed hrun hopen hresult hlate hlog) hphase hleaves rfl rfl rfl rfl rfl
        ?_ (length_batches_signalsOf _ _)
      simp [published, course, hlog, List.filterMap_cons, EngineEvent.published?]

end Board

end Engine

end QuadDaq

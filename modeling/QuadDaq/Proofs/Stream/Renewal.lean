import QuadDaq.Proofs.Settings.Later
import QuadDaq.Proofs.Stream.Change
import QuadDaq.Proofs.Stream.Measuring

/-!
# Streams after earlier streams

**What earlier streams left behind does not show in later ones.** The engine `before.later …`
has gone through the same as another one, but after what happened to `before`: its streams
have greater numbers, its bridge epochs and its counters start with what was there before.
Its clock and its log may be any, and with them what only depends on time: when ticks are due
and how many were late (`Aside`). Every operation treats both alike and leaves them in that
relation again (`start_later` and so on). Of epochs only the differences count.
-/

namespace QuadDaq

/-! ### Later ticks and runs -/

/-- The same sampler after so many more bridge assignments. -/
def Sampler.later (epoch : UInt64) (s : Sampler) : Sampler := { s with epoch := epoch + s.epoch }

/-- The same tick after so many more bridge assignments. -/
def OpenTick.later (epoch : UInt64) (tick : OpenTick) : OpenTick :=
  { tick with snapshot := tick.snapshot.later epoch }

namespace Sampler

variable (epoch : UInt64) (s : Sampler)

theorem needsRouting_later (seen : UInt64) :
    (s.later epoch).needsRouting (epoch + seen) = s.needsRouting seen := by
  rw [Bool.eq_iff_iff]
  simp only [needsRouting, later, bne_iff_ne, ne_eq, UInt64.add_right_inj]

theorem observe_later (seen : UInt64) :
    (s.later epoch).observe (epoch + seen) = (s.observe seen).later epoch := by
  simp only [observe, needsRouting_later]
  split <;> rfl

theorem result?_later (snapshot : Settings.Snapshot) (outcome : ReadOutcome) :
    (s.later epoch).result? (snapshot.later epoch) outcome = s.result? snapshot outcome := rfl

theorem collect_later (row : Row) :
    (s.later epoch).collect row = ((s.collect row).1.later epoch, (s.collect row).2) := by
  by_cases hfull : s.plan.batchRows ≤ (s.pending.push row).size
  · simp only [collect, later, hfull, if_true]
    rfl
  · simp only [collect, later, hfull, if_false]
    rfl

theorem advance_later (result : TickResult) :
    (s.later epoch).advance result = ((s.advance result).1.later epoch, (s.advance result).2) := by
  cases result with
  | row row =>
      simp only [advance, collect_later]
      rfl
  | _ => rfl

end Sampler

/-- Counts of both. -/
instance : Add TickCounters where
  add n m :=
    { ticks := n.ticks + m.ticks
      discarded := n.discarded + m.discarded
      faults := n.faults + m.faults
      incomplete := n.incomplete + m.incomplete
      late := n.late + m.late }

/-- The counts but for the ticks that were late. -/
def TickCounters.untimed (n : TickCounters) : TickCounters := { n with late := 0 }

/-- Counting on from some counts is counting from zero and adding. -/
theorem TickCounters.add_later (n m : TickCounters) (late : Nat) (result : TickResult) :
    ({ n + m with late := late } : TickCounters).add result =
      { n + m.add result with late := late } := by
  cases result <;> rfl

/-- What an engine has of time, of its latest rate and of its log. -/
structure Aside where
  clock : ManualClock
  /-- Instant at which the current tick was due. -/
  deadline : Nat
  late : Nat
  latestRate : Nat
  log : Array EngineEvent

namespace Engine

variable {β : Type}

end Engine

/-- The same run of a stream that comes after those of `before`. -/
def Run.later {β : Type} (before : Engine β) (deadline : Nat) (run : Run) : Run :=
  { run with
    stream := before.attempts + run.stream
    sampler := run.sampler.later before.store.snapshot.bridgeEpoch
    deadline := deadline
    openTick := run.openTick.map (OpenTick.later before.store.snapshot.bridgeEpoch) }

namespace Engine

variable {β : Type}

/-- The same engine after `before`, up to what is aside. Without a run of its own it has that
of an earlier stream whose read has not returned. -/
def later (before : Engine β) (aside : Aside) (e : Engine β) : Engine β :=
  { e with
    store := e.store.later before.store.snapshot.bridgeEpoch
    latestRate := aside.latestRate
    run := (e.run.map (Run.later before aside.deadline)).or before.run
    attempts := before.attempts + e.attempts
    clock := aside.clock
    counters := { before.counters + e.counters with late := aside.late }
    log := aside.log }

section Operations

variable (before : Engine β) (aside : Aside) (e : Engine β)

/-- What is noted is aside. -/
theorem note_later (event event' : EngineEvent) :
    (before.later aside e).note event = before.later { aside with log := aside.log.push event } (e.note event') := rfl

theorem emit_later (k k' : Nat) (signals : List Signal) : ∀ (aside : Aside) (e : Engine β),
    ∃ log, (before.later aside e).emit k signals =
      before.later { aside with log := log } (e.emit k' signals) := by
  induction signals with
  | nil => exact fun aside e => ⟨aside.log, rfl⟩
  | cons signal rest ih =>
      intro aside e
      exact ih { aside with log := aside.log.push (.published k signal) } (e.note (.published k' signal))

variable (run : Run) (deadline : Nat)

theorem settle_later (tick : OpenTick) (outcome : ReadOutcome) (result : TickResult) :
    ∃ log, (before.later aside e).settle (run.later before deadline)
        (tick.later before.store.snapshot.bridgeEpoch) outcome result =
      (before.later { aside with log := log } (e.settle run tick outcome result).1,
        (e.settle run tick outcome result).2.1.later before deadline,
        (e.settle run tick outcome result).2.2) := by
  have hadvance := run.sampler.advance_later before.store.snapshot.bridgeEpoch result
  have hcounters : (before.later aside e).counters.add result =
      { before.counters + e.counters.add result with late := aside.late } :=
    TickCounters.add_later _ _ _ _
  simp only [settle, hcounters]
  simp only [Run.later, hadvance]
  generalize run.sampler.advance result = advanced
  obtain ⟨sampler, batch⟩ := advanced
  let record : TickRecord := ⟨tick.snapshot, tick.polled, run.sampler.isGuarded, outcome, result⟩
  let record' : TickRecord := { record with snapshot := record.snapshot.later before.store.snapshot.bridgeEpoch }
  obtain ⟨log, hemit⟩ := before.emit_later (before.attempts + run.stream) run.stream
    (reportOf result ++ (batch.map Signal.batch).toList)
    { aside with log := aside.log.push (.ticked (before.attempts + run.stream) record') }
    ({ e with counters := e.counters.add result }.note (.ticked run.stream record))
  exact ⟨log, congrArg (fun e' => (e', _, _)) hemit⟩

/-- When the next tick is due, and whether this one was late, is aside. -/
theorem pace_later :
    ∃ clock late log deadline', (before.later aside e).pace (run.later before deadline) =
      (before.later { aside with clock := clock, late := late, log := log } (e.pace run).1,
        (e.pace run).2.later before deadline') := by
  have hrun : ∀ deadline', (run.later before deadline').deadline = deadline' := fun _ => rfl
  have hclock : (before.later aside e).clock = aside.clock := rfl
  have hperiod : (run.later before deadline).period = run.period := rfl
  rw [pace, pace, hrun, hclock, hperiod]
  obtain ⟨due, late⟩ := Pace.nextDeadline run.deadline e.clock.elapsed run.period
  obtain ⟨due', late'⟩ := Pace.nextDeadline deadline aside.clock.elapsed run.period
  refine ⟨if late' then aside.clock else aside.clock.sleepUntil due',
    if late' then aside.late + 1 else aside.late,
    if late' then aside.log else aside.log.push (.slept due'), due', ?_⟩
  cases late <;> cases late' <;> rfl

theorem endRun_later (hbefore : before.run = none) (custody : Custody) :
    ∃ log, (before.later aside e).endRun (run.later before deadline) custody =
      before.later { aside with log := log } (e.endRun run custody) := by
  refine ⟨aside.log.push (.abandoned (before.attempts + run.stream) run.sampler.pending), ?_⟩
  simp only [endRun, note, later, Option.map_none, Option.none_or, hbefore]
  rfl

/-- It is enough to compare what is chosen between. -/
theorem ite_later {c c' : Prop} [Decidable c] [Decidable c'] (hc : c' ↔ c) {x y x' y' : Engine β}
    {rate : Nat} (hx : ∃ aside, aside.latestRate = rate ∧ x' = before.later aside x)
    (hy : ∃ aside, aside.latestRate = rate ∧ y' = before.later aside y) :
    ∃ aside, aside.latestRate = rate ∧
      (if c' then x' else y') = before.later aside (if c then x else y) := by
  by_cases h : c
  · rw [if_pos h, if_pos (hc.mpr h)]
    exact hx
  · rw [if_neg h, if_neg (mt hc.mp h)]
    exact hy

/-- The run that an engine goes on with is its own. -/
theorem withRun_later :
    { before.later aside e with run := some (run.later before deadline) } =
      before.later { aside with deadline := deadline } { e with run := some run } := rfl

section Board

variable [Board β]

theorem setMeasuring_later (on : Bool) :
    ∃ log, (before.later aside e).setMeasuring on =
      (before.later { aside with log := log } (e.setMeasuring on).1, (e.setMeasuring on).2) :=
  ⟨aside.log.push (.measure on (Board.setMeasuring on e.board).2.isOk), rfl⟩

theorem selectBridge_later (bridge : Bridge) :
    ∃ log, (before.later aside e).selectBridge bridge =
      (before.later { aside with log := log } (e.selectBridge bridge).1, (e.selectBridge bridge).2) :=
  ⟨aside.log.push (.select bridge (Board.selectBridge bridge e.board).2.isOk), rfl⟩

theorem route_later (snapshot : Settings.Snapshot) :
    ∃ log, (before.later aside e).route (run.later before deadline)
        (snapshot.later before.store.snapshot.bridgeEpoch) =
      (before.later { aside with log := log } (e.route run snapshot).1,
        (e.route run snapshot).2.1.later before deadline, (e.route run snapshot).2.2) := by
  have hneeds := run.sampler.needsRouting_later before.store.snapshot.bridgeEpoch
    snapshot.bridgeEpoch
  have hobserve := run.sampler.observe_later before.store.snapshot.bridgeEpoch
    snapshot.bridgeEpoch
  obtain ⟨log, hselect⟩ := before.selectBridge_later aside e snapshot.bridge
  simp only [route, Run.later, Settings.Snapshot.later, hneeds, hobserve, hselect]
  split
  · refine ⟨log, ?_⟩
    rcases e.selectBridge snapshot.bridge with ⟨routed, _ | _⟩ <;> rfl
  · exact ⟨aside.log, rfl⟩

theorem pollButton_later :
    (before.later aside e).pollButton (run.later before deadline) =
      (before.later aside (e.pollButton run).1, (e.pollButton run).2) := by
  have hpolls : (run.later before deadline).sampler.pollsButton = run.sampler.pollsButton := rfl
  have hbutton : (before.later aside e).button = e.button := rfl
  have hboard : (before.later aside e).board = e.board := rfl
  rw [pollButton, pollButton, hbutton, hpolls, hboard]
  cases e.button with
  | none => rfl
  | some debouncer =>
      cases run.sampler.pollsButton <;> rfl

theorem beginTick_later (lag : Duration) :
    ∃ log, (before.later aside e).beginTick (run.later before aside.deadline) lag =
      (before.later { aside with log := log } (e.beginTick run lag).1, (e.beginTick run lag).2) := by
  obtain ⟨log, hroute⟩ := before.route_later aside e run aside.deadline e.store.snapshot
  have hsnapshot : (before.later aside e).store.snapshot =
      e.store.snapshot.later before.store.snapshot.bridgeEpoch := rfl
  simp only [beginTick, hsnapshot, hroute, pollButton_later]
  generalize e.route run e.store.snapshot = routed
  obtain ⟨e₁, run₁, routing⟩ := routed
  simp only
  generalize e₁.pollButton run₁ = polled
  obtain ⟨e₂, level, polling⟩ := polled
  let run₂ : Run := { run₁ with openTick := some ⟨e.store.snapshot, level, lag⟩ }
  obtain ⟨log', hemit⟩ := before.emit_later (before.attempts + run₂.stream) run₂.stream
    (routing ++ polling) { aside with log := log } { e₂ with run := some run₂ }
  exact ⟨log'.push (.reading e₂.config.readTimeout),
    congrArg (fun e' => (e'.note (.reading e₂.config.readTimeout), routing ++ polling)) hemit⟩

theorem handBack_later (hbefore : before.run = none) :
    ∃ log, (before.later aside e).handBack (run.later before deadline) =
      before.later { aside with log := log } (e.handBack run) := by
  obtain ⟨log, hmeasure⟩ := before.setMeasuring_later aside e false
  simp only [handBack, hmeasure]
  exact before.endRun_later { aside with log := log } (e.setMeasuring false).1 run deadline hbefore .parked

theorem endTick_later (hbefore : before.run = none) (tick : OpenTick) :
    ∃ aside', aside'.latestRate = aside.latestRate ∧
      (before.later aside e).endTick (run.later before deadline)
        (tick.later before.store.snapshot.bridgeEpoch) =
      (before.later aside' (e.endTick run tick).1, (e.endTick run tick).2) := by
  have hread : Board.read (before.later aside e).config.readTimeout (before.later aside e).board =
      Board.read e.config.readTimeout e.board := rfl
  unfold endTick
  rw [hread]
  rcases Board.read e.config.readTimeout e.board with ⟨board, outcome⟩
  let aside₁ : Aside := { aside with clock := aside.clock.advance tick.lag }
  let e₁ : Engine β := { e with board := board, clock := e.clock.advance tick.lag }
  have hreturned : ({ before.later aside e with
      board := board
      clock := (before.later aside e).clock.advance (tick.later before.store.snapshot.bridgeEpoch).lag } :
        Engine β) = before.later aside₁ e₁ := rfl
  have hresult : (run.later before deadline).sampler.result?
      (tick.later before.store.snapshot.bridgeEpoch).snapshot outcome =
      run.sampler.result? tick.snapshot outcome :=
    Sampler.result?_later _ _ tick.snapshot outcome
  simp only [hreturned, hresult]
  cases run.sampler.result? tick.snapshot outcome with
  | none =>
      let crashed : Run := { run with openTick := none, crashed := true }
      let e₂ : Engine β := e₁.note (.crashed run.stream tick)
      let aside₂ : Aside := { aside₁ with
        log := aside₁.log.push (.crashed (before.attempts + run.stream)
          (tick.later before.store.snapshot.bridgeEpoch)) }
      obtain ⟨log, hend⟩ := before.endRun_later aside₂ e₂ crashed deadline hbefore .lost
      obtain ⟨aside', hrate, heq⟩ := before.ite_later (c := e.custody = .awaited) Iff.rfl
        ⟨_, rfl, hend⟩
        ⟨{ aside₂ with deadline := deadline }, rfl, before.withRun_later aside₂ e₂ crashed deadline⟩
      exact ⟨aside', hrate, congrArg (·, []) heq⟩
  | some result =>
      obtain ⟨log, hsettle⟩ := before.settle_later aside₁ e₁ run deadline tick outcome result
      simp only [hsettle]
      rcases e₁.settle run tick outcome result with ⟨e₂, run₂, signals⟩
      obtain ⟨clock, late, log', deadline', hpace⟩ :=
        before.pace_later { aside₁ with log := log } e₂ run₂ deadline
      simp only [hpace]
      rcases e₂.pace run₂ with ⟨e₃, run₃⟩
      let aside₃ : Aside := { aside₁ with clock := clock, late := late, log := log' }
      obtain ⟨log'', hback⟩ := before.handBack_later aside₃ e₃ run₃ deadline' hbefore
      obtain ⟨aside', hrate, heq⟩ := before.ite_later (c := e₃.custody = .awaited) Iff.rfl
        ⟨_, rfl, hback⟩
        ⟨{ aside₃ with deadline := deadline' }, rfl, before.withRun_later aside₃ e₃ run₃ deadline'⟩
      exact ⟨aside', hrate, congrArg (·, signals) heq⟩

theorem arm_later :
    ∃ log, (before.later aside e).arm =
      (before.later { aside with log := log } e.arm.1, e.arm.2) := by
  obtain ⟨log, hon⟩ := before.setMeasuring_later aside e true
  rw [arm, arm, hon]
  rcases e.setMeasuring true with ⟨e₁, fault | _⟩
  · exact ⟨log, rfl⟩
  · obtain ⟨log₁, hselect⟩ :=
      before.selectBridge_later { aside with log := log } e₁ e₁.store.snapshot.bridge
    have hbridge : (before.later { aside with log := log } e₁).store.snapshot.bridge =
        e₁.store.snapshot.bridge := rfl
    simp only [hbridge, hselect]
    rcases e₁.selectBridge e₁.store.snapshot.bridge with ⟨e₂, fault | _⟩
    · obtain ⟨log₂, hoff⟩ := before.setMeasuring_later { aside with log := log₁ } e₂ false
      exact ⟨log₂, congrArg (fun p => (p.1, Except.error fault)) hoff⟩
    · exact ⟨log₁, rfl⟩

/-! ### Lifecycle -/

/-- Waits for a worker are representable at this rate just if they are at the latest one. -/
def SameGrace (e : Engine β) (rate : Nat) : Prop :=
  (Pace.stopGrace? e.config.readTimeout rate).isSome =
    (Pace.stopGrace? e.config.readTimeout e.latestRate).isSome

omit [Board β] in
/-- This is always so, unless the read timeout comes close to the longest duration. -/
theorem sameGrace_of_slowest {e : Engine β}
    (h : (Pace.stopGrace? e.config.readTimeout 1).isSome = true) (rate : Nat) : e.SameGrace rate := by
  rw [SameGrace, Pace.stopGrace?_isSome h, Pace.stopGrace?_isSome h]

/-- A start goes the same ways. The epoch of a new run is the one in the store, and so later
by as many assignments as the store. -/
theorem start_later (hgrace : e.SameGrace aside.latestRate) :
    ∃ aside', e.start.1.SameGrace aside'.latestRate ∧
      (before.later aside e).start = (before.later aside' e.start.1, e.start.2) := by
  by_cases hphase : e.phase = .stopped
  case neg =>
    have hstart : ∀ e : Engine β, e.phase ≠ .stopped → e.start = (e, .refused .alreadyRunning) :=
      fun e hne => by rw [start, if_pos hne]
    rw [hstart e hphase, hstart (before.later aside e) hphase]
    exact ⟨aside, hgrace, rfl⟩
  have hlater : (before.later aside e).phase = .stopped := hphase
  have hrate : (before.later aside e).latestRate = aside.latestRate := rfl
  have hcustody : (before.later aside e).custody = e.custody := rfl
  have hconfig : (before.later aside e).config = e.config := rfl
  rw [start_eq _ hlater, start_eq _ hphase, hrate, hcustody, hconfig]
  have hgrace' := hgrace
  unfold SameGrace at hgrace'
  cases hfirst : Pace.stopGrace? e.config.readTimeout e.latestRate with
  | none =>
      rw [hfirst, Option.isSome_none, Option.isSome_eq_false_iff, Option.isNone_iff_eq_none] at hgrace'
      rw [hgrace']
      exact ⟨aside, hgrace, rfl⟩
  | some wait =>
      rw [hfirst, Option.isSome_some] at hgrace'
      obtain ⟨wait', hfirst'⟩ := Option.isSome_iff_exists.mp hgrace'
      rw [hfirst']
      simp only
      cases hobstacle : Custody.obstacle? e.custody with
      | some error => exact ⟨aside, hgrace, rfl⟩
      | none =>
          let aside₁ : Aside := { aside with latestRate := e.store.shape.sampleRate }
          have hretimed : (before.later aside e).attempted.retimed =
              before.later aside₁ e.attempted.retimed := rfl
          obtain ⟨log, harm⟩ := before.arm_later aside₁ e.attempted.retimed
          obtain ⟨board, log₀, result, heq, -⟩ := arm_eq e.attempted.retimed
          rw [hretimed, harm, heq]
          cases result with
          | error fault => exact ⟨{ aside₁ with log := log }, rfl, rfl⟩
          | ok armed =>
              simp only
              -- From here on the rate is that of the new stream in both.
              let e₁ : Engine β := { e.attempted.retimed with board := board, log := log₀ }
              have hsame : Pace.stopGrace? (before.later { aside₁ with log := log } e₁).config.readTimeout
                  (before.later { aside₁ with log := log } e₁).latestRate =
                  Pace.stopGrace? e₁.config.readTimeout e₁.latestRate := rfl
              rw [hsame]
              cases Pace.stopGrace? e₁.config.readTimeout e₁.latestRate with
              | none => exact ⟨{ aside₁ with log := log }, rfl, rfl⟩
              | some wait =>
                  exact ⟨{ aside₁ with log := log, deadline := aside.clock.elapsed }, rfl, rfl⟩

/-- What a stop makes of the engine while a stream runs. -/
def wound (e : Engine β) (run : Run) : Engine β :=
  if run.crashed then e.endRun run .lost
  else if run.openTick.isSome then { e with custody := .awaited }
  else e.handBack run

theorem stop_eq_of_some {run : Run} (hphase : e.phase = .running) (hrun : e.run = some run) :
    e.stop = ({ e.wound run with phase := .stopped, store := (e.wound run).store.release }, .done) := by
  unfold stop
  split
  · next run' _ hrun' =>
      obtain rfl := Option.some.inj (hrun.symm.trans hrun')
      rfl
  · next hne => exact absurd hrun (hne run hphase)

/-- A stop goes the same ways. An engine that is running has a run of its own. -/
theorem stop_later (hbefore : e.phase = .running → before.run = none) :
    ∃ aside', aside'.latestRate = aside.latestRate ∧
      (before.later aside e).stop = (before.later aside' e.stop.1, e.stop.2) := by
  by_cases hphase : e.phase = .running
  case neg =>
    have hlater : (before.later aside e).phase ≠ .running := hphase
    rw [stop_eq_of_ne hphase, stop_eq_of_ne hlater]
    exact ⟨aside, rfl, rfl⟩
  have hlater : (before.later aside e).phase = .running := hphase
  have hnone := hbefore hphase
  cases hrun : e.run with
  | none =>
      have hrun' : (before.later aside e).run = none := by
        rw [later, hrun, hnone, Option.map_none, Option.none_or]
      rw [stop, stop, hphase, hlater, hrun, hrun']
      exact ⟨aside, rfl, rfl⟩
  | some run =>
      have hrun' : (before.later aside e).run = some (run.later before aside.deadline) := by
        rw [later, hrun, Option.map_some, Option.some_or]
      rw [stop_eq_of_some _ hlater hrun', stop_eq_of_some _ hphase hrun]
      obtain ⟨log, hend⟩ := before.endRun_later aside e run aside.deadline hnone .lost
      obtain ⟨log', hback⟩ := before.handBack_later aside e run aside.deadline hnone
      have hopen : (run.later before aside.deadline).openTick.isSome = true ↔
          run.openTick.isSome = true := by
        rw [Run.later, Option.isSome_map]
      have hawaited : ({ before.later aside e with custody := .awaited } : Engine β) =
          before.later aside { e with custody := .awaited } := rfl
      have hleft := before.ite_later hopen ⟨aside, rfl, hawaited⟩
        ⟨{ aside with log := log' }, rfl, hback⟩
      have hcrashed : (run.later before aside.deadline).crashed = true ↔ run.crashed = true := .rfl
      obtain ⟨aside', hrate, heq⟩ := before.ite_later hcrashed
        ⟨{ aside with log := log }, rfl, hend⟩ hleft
      refine ⟨aside', hrate, ?_⟩
      exact congrArg (fun e' : Engine β =>
        ({ e' with phase := .stopped, store := e'.store.release }, Outcome.done)) heq

end Board

theorem configure_later (command : Settings.Command) :
    (before.later aside e).configure command.run =
      (before.later aside (e.configure command.run).1, (e.configure command.run).2) := by
  have hrun := command.run_later before.store.snapshot.bridgeEpoch e.store
  have hstore : (before.later aside e).store = e.store.later before.store.snapshot.bridgeEpoch := rfl
  rw [configure, configure, hstore, hrun]
  cases command.run e.store <;> rfl

theorem get_later (document : Json) : (before.later aside e).get document = e.get document := by
  have hget := e.store.get_later before.store.snapshot.bridgeEpoch document
  have hstore : (before.later aside e).store = e.store.later before.store.snapshot.bridgeEpoch := rfl
  rw [get, get, hstore, hget]

theorem apply_later (document : Json) :
    ((before.later aside e).apply document).2 = (e.apply document).2 := by
  have happly := e.store.apply_later before.store.snapshot.bridgeEpoch document
  have hstore : (before.later aside e).store = e.store.later before.store.snapshot.bridgeEpoch := rfl
  rw [apply, apply, hstore, happly]
  cases e.store.apply document <;> rfl

end Operations

/-! ### The relation along a run -/

section Board

variable [Board β] {e : Engine β}

/-- Only a start changes the latest rate. -/
theorem SameGrace.endTick {rate : Nat} (h : e.SameGrace rate) (run : Run) (tick : OpenTick) :
    (e.endTick run tick).1.SameGrace rate := by
  cases hresult : run.sampler.result? tick.snapshot (Board.read e.config.readTimeout e.board).2 with
  | none =>
      obtain ⟨board, clock, log, -, -, hleaves⟩ := endTick_of_crash hresult
      generalize (e.endTick run tick).1 = e' at hleaves ⊢
      cases hleaves <;> exact h
  | some result =>
      obtain ⟨board, clock, late, deadline, log, -, -, -, hleaves⟩ := endTick_of_result hresult
      generalize (e.endTick run tick).1 = e' at hleaves ⊢
      cases hleaves <;> exact h

theorem SameGrace.stop {rate : Nat} (h : e.SameGrace rate) : e.stop.1.SameGrace rate := by
  unfold Engine.stop
  split
  · split
    · exact h
    · split <;> exact h
  · exact h

/-- A board that is awaited cannot be had for a new stream. -/
theorem start_of_awaited (hawaited : e.custody = .awaited) (hphase : e.phase ≠ .running) :
    e.start.1.run = e.run ∧ e.start.1.custody = .awaited ∧ e.start.1.phase ≠ .running := by
  by_cases hstopped : e.phase = .stopped
  · rw [start_eq e hstopped, hawaited]
    cases Pace.stopGrace? e.config.readTimeout e.latestRate with
    | none => exact ⟨rfl, hawaited, by simp [attempted]⟩
    | some wait => exact ⟨rfl, hawaited, by simp [Custody.obstacle?, abandonStart]⟩
  · rw [Engine.start, if_pos hstopped]
    exact ⟨rfl, hawaited, hphase⟩

end Board

/-- The engine `e'` has gone through the same as `e`, after what happened to `before`. As long
as a read of an earlier stream has not returned nothing else can have the board. -/
structure Repeats (before e e' : Engine β) : Prop where
  later : ∃ aside, e.SameGrace aside.latestRate ∧ e' = before.later aside e
  waits : before.run.isSome → e.run = none ∧ e.custody = .awaited ∧ e.phase ≠ .running

namespace Repeats

variable {before e e' : Engine β}

theorem phase (h : before.Repeats e e') : e'.phase = e.phase := by
  obtain ⟨aside, -, rfl⟩ := h.later
  rfl

theorem board (h : before.Repeats e e') : e'.board = e.board := by
  obtain ⟨aside, -, rfl⟩ := h.later
  rfl

theorem before_run (h : before.Repeats e e') {run : Run} (hrun : e.run = some run) :
    before.run = none := by
  cases hbefore : before.run with
  | none => rfl
  | some old =>
      have hnone := (h.waits (by rw [hbefore]; rfl)).1
      rw [hrun] at hnone
      cases hnone

theorem before_run_of_running (h : before.Repeats e e') (hphase : e.phase = .running) :
    before.run = none := by
  by_contra hsome
  exact (h.waits (Option.isSome_iff_ne_none.mpr hsome)).2.2 hphase

theorem run (h : before.Repeats e e') {run : Run} (hrun : e.run = some run) :
    ∃ deadline, e'.run = some (run.later before deadline) := by
  obtain ⟨aside, -, rfl⟩ := h.later
  exact ⟨aside.deadline, by rw [Engine.later, hrun, Option.map_some, Option.some_or]⟩

theorem run_eq_none (h : before.Repeats e e') (hbefore : before.run = none) (hrun : e.run = none) :
    e'.run = none := by
  obtain ⟨aside, -, rfl⟩ := h.later
  rw [Engine.later, hrun, hbefore, Option.map_none, Option.none_or]

theorem configure (h : before.Repeats e e') (command : Settings.Command) :
    before.Repeats (e.configure command.run).1 (e'.configure command.run).1 ∧
      (e'.configure command.run).2 = (e.configure command.run).2 := by
  obtain ⟨aside, hgrace, rfl⟩ := h.later
  rw [before.configure_later aside e command]
  unfold Engine.configure
  split
  · exact ⟨⟨⟨aside, hgrace, rfl⟩, h.waits⟩, rfl⟩
  · exact ⟨⟨⟨aside, hgrace, rfl⟩, h.waits⟩, rfl⟩

theorem disturb (h : before.Repeats e e') (change : β → β) :
    before.Repeats { e with board := change e.board } { e' with board := change e'.board } := by
  obtain ⟨aside, hgrace, rfl⟩ := h.later
  exact ⟨⟨aside, hgrace, rfl⟩, h.waits⟩

theorem get (h : before.Repeats e e') (document : Json) : e'.get document = e.get document := by
  obtain ⟨aside, -, rfl⟩ := h.later
  exact before.get_later aside e document

theorem apply (h : before.Repeats e e') (document : Json) :
    (e'.apply document).2 = (e.apply document).2 := by
  obtain ⟨aside, -, rfl⟩ := h.later
  exact before.apply_later aside e document

variable [Board β]

theorem beginTick (h : before.Repeats e e') {run : Run} (hrun : e.run = some run) (lag : Duration) :
    ∃ deadline, e'.run = some (run.later before deadline) ∧
      before.Repeats (e.beginTick run lag).1 (e'.beginTick (run.later before deadline) lag).1 ∧
      (e'.beginTick (run.later before deadline) lag).2 = (e.beginTick run lag).2 := by
  have hnone := h.before_run hrun
  obtain ⟨aside, hgrace, rfl⟩ := h.later
  obtain ⟨log, hbegin⟩ := before.beginTick_later aside e run lag
  obtain ⟨board, button, polled, log', signals, heq, -⟩ := beginTick_eq e run lag
  refine ⟨aside.deadline, by rw [Engine.later, hrun, Option.map_some, Option.some_or], ?_⟩
  rw [hbegin, heq]
  exact ⟨⟨⟨{ aside with log := log }, hgrace, rfl⟩, by simp [hnone]⟩, rfl⟩

theorem endTick (h : before.Repeats e e') {run : Run} (hrun : e.run = some run) (tick : OpenTick) :
    ∃ deadline, e'.run = some (run.later before deadline) ∧
      before.Repeats (e.endTick run tick).1
        (e'.endTick (run.later before deadline) (tick.later before.store.snapshot.bridgeEpoch)).1 ∧
      (e'.endTick (run.later before deadline) (tick.later before.store.snapshot.bridgeEpoch)).2 =
        (e.endTick run tick).2 := by
  have hnone := h.before_run hrun
  obtain ⟨aside, hgrace, rfl⟩ := h.later
  obtain ⟨aside', hrate, hend⟩ := before.endTick_later aside e run aside.deadline hnone tick
  refine ⟨aside.deadline, by rw [Engine.later, hrun, Option.map_some, Option.some_or], ?_⟩
  rw [hend]
  exact ⟨⟨⟨aside', hrate ▸ hgrace.endTick run tick, rfl⟩, by simp [hnone]⟩, rfl⟩

theorem start (h : before.Repeats e e') :
    before.Repeats e.start.1 e'.start.1 ∧ e'.start.2 = e.start.2 := by
  obtain ⟨aside, hgrace, rfl⟩ := h.later
  obtain ⟨aside', hgrace', hstart⟩ := before.start_later aside e hgrace
  rw [hstart]
  refine ⟨⟨⟨aside', hgrace', rfl⟩, fun hbefore => ?_⟩, rfl⟩
  obtain ⟨hrun, hawaited, hphase⟩ := h.waits hbefore
  obtain ⟨hrun', hawaited', hphase'⟩ := start_of_awaited hawaited hphase
  exact ⟨hrun'.trans hrun, hawaited', hphase'⟩

theorem stop (h : before.Repeats e e') :
    before.Repeats e.stop.1 e'.stop.1 ∧ e'.stop.2 = e.stop.2 := by
  have hown := h.before_run_of_running
  obtain ⟨aside, hgrace, rfl⟩ := h.later
  obtain ⟨aside', hrate, hstop⟩ := before.stop_later aside e hown
  rw [hstop]
  refine ⟨⟨⟨aside', hrate ▸ hgrace.stop, rfl⟩, fun hbefore => ?_⟩, rfl⟩
  rw [stop_eq_of_ne (h.waits hbefore).2.2]
  exact h.waits hbefore

end Repeats

/-! ### Between two streams -/

/-- An engine to which nothing has happened, with the board, the settings and the button of
this one. -/
def renewed (e : Engine β) : Engine β :=
  { e with
    store := { e.store with snapshot := { e.store.snapshot with bridgeEpoch := 0 } }
    run := none
    attempts := 0
    clock := {}
    counters := {}
    log := #[] }

/-- Both engines are stopped, with equal boards in the same custody, the same calibration,
bridge and shape in the store, and equal debouncing. All else may differ: epochs, counters,
numbers, clocks and logs, and whatever the earlier streams left in their runs. Of the rates
of the earlier streams it only counts whether a wait for their workers was representable. -/
structure StopsAlike (e e' : Engine β) : Prop where
  stopped : e.phase = .stopped
  stopped' : e'.phase = .stopped
  config : e'.config = e.config
  buttonConfig : e'.buttonConfig = e.buttonConfig
  board : e'.board = e.board
  custody : e'.custody = e.custody
  button : e'.button = e.button
  snapshot : e'.store.snapshot =
    { e.store.snapshot with bridgeEpoch := e'.store.snapshot.bridgeEpoch }
  shape : e'.store.shape = e.store.shape
  grace : e.SameGrace e'.latestRate

namespace StopsAlike

variable {e e' : Engine β}

/-- Between two streams an engine is a new one with a past. -/
theorem eq_later (h : e.StopsAlike e') (hfrozen : e'.store.frozen = e.store.frozen) :
    e' = e'.later ⟨e'.clock, 0, e'.counters.late, e'.latestRate, e'.log⟩ e.renewed := by
  obtain ⟨hstopped, hstopped', hconfig, hbuttonConfig, hboard, hcustody, hbutton, hsnapshot, hshape,
    -⟩ := h
  obtain ⟨config, buttonConfig, board, button, ⟨snapshot, shape, frozen⟩, phase, custody, rate, run,
    attempts, clock, counters, log⟩ := e'
  simp only at hstopped' hconfig hbuttonConfig hboard hcustody hbutton hsnapshot hshape hfrozen
  have hstore : (e.renewed.store.later snapshot.bridgeEpoch) = ⟨snapshot, shape, frozen⟩ := by
    rw [hsnapshot, hshape, hfrozen]
    simp only [Settings.Store.later, Settings.Snapshot.later, renewed, UInt64.add_zero]
  simp only [later, hstore]
  simp only [renewed, Option.map_none, Option.none_or, hstopped, hstopped', hconfig, hbuttonConfig,
    hboard, hcustody, hbutton]
  rfl

theorem repeats (h : e.StopsAlike e') (hfrozen : e'.store.frozen = e.store.frozen)
    (hc : e'.Coherent) : e'.Repeats e.renewed e' where
  later := ⟨⟨e'.clock, 0, e'.counters.late, e'.latestRate, e'.log⟩, h.grace, h.eq_later hfrozen⟩
  waits hrun := by
    have hne : e'.phase ≠ .running := by simp [h.stopped']
    have hawaited : e'.custody = .awaited :=
      (hc.running.mp hrun).resolve_left fun hsampling => hne (hc.sampling.mpr hsampling)
    exact ⟨rfl, h.custody.symm.trans hawaited, by simp [renewed, h.stopped]⟩

end StopsAlike

end Engine

end QuadDaq

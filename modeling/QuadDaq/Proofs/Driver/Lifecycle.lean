import QuadDaq.Proofs.Driver.Engines
import QuadDaq.Proofs.Driver.Streams
import QuadDaq.Proofs.Stream.Measuring

/-!
# The lifecycle of a driver

**Between two commands a driver is stopped or runs, and nothing else** (`inOrder_after`).
While it runs the shape is frozen, the stream has the board, and the board measures. While it
is stopped none of this is so. This needs that no stop breaks into a read that has not
returned, and that a stop has a deadline at all: `halfway_of_endless` is what becomes of a
driver without one, and `starting_for_good` that it stays so.

**A command that is refused changes nothing** (`refusesAtomically`), with one exception: the
start of a stopped driver is refused after the fact if its board cannot be armed, and then
the driver is stopped as before (`startsOrRestores`).
-/

namespace QuadDaq.Driver

variable {β : Type}

/-! ### Refusals -/

theorem configure_of_refused {d : Driver β} {command : Settings.Command} {error : DriverError}
    (h : (d.configure command).2 = .refused error) :
    (d.configure command).1 = d ∧ ∃ reason, error = .invalidArgument reason := by
  cases hrun : command.run d.engine.store with
  | ok store =>
      rw [configure_of_ok hrun] at h
      cases h
  | error refusal =>
      rw [configure_of_error hrun] at h ⊢
      exact ⟨rfl, _, (Outcome.refused.inj h).symm⟩

theorem apply_of_refused {e : Engine β} {document : Json} {error : DriverError}
    (h : (e.apply document).2 = .error error) :
    (e.apply document).1 = e ∧ ∃ reason, error = .invalidArgument reason := by
  simp only [Engine.apply] at h ⊢
  cases hrun : e.store.apply document with
  | ok p =>
      rw [hrun] at h
      cases h
  | error refusal =>
      rw [hrun] at h
      exact ⟨rfl, _, (Except.error.inj h).symm⟩

section Board

variable [Board β]

theorem start_of_ne {d : Driver β} (h : d.engine.phase ≠ .stopped) :
    d.start = (d, .refused .alreadyRunning) := by
  simp only [start, Engine.start, if_pos h]

theorem stop_of_ne {d : Driver β} (h : d.engine.phase ≠ .running) :
    d.stop = (d, .refused .notRunning) := by
  simp only [stop, Engine.stop_eq_of_ne h]

theorem stop_of_refused {d : Driver β} {error : DriverError} (h : d.stop.2 = .refused error) :
    d.stop.1 = d := by
  by_cases hphase : d.engine.phase = .running
  · cases hrun : d.engine.run with
    | none => simp only [stop, Engine.stop, hphase, hrun]
    | some run =>
        rw [d.stop_engine.2] at h
        simp only [Engine.stop, hphase, hrun, reduceCtorEq] at h
  · rw [stop_of_ne hphase]

/-- Which commands a driver refuses, and that this leaves the driver as it is. -/
structure RefusesAtomically (d : Driver β) : Prop where
  start : d.engine.phase = .running → d.step .start = (d, .outcome (.refused .alreadyRunning))
  register : d.engine.phase = .running → ∀ kind consumer,
    d.step (.register kind consumer) = (d, .outcome (.refused .alreadyRunning))
  stop : d.engine.phase = .stopped → d.step .stop = (d, .outcome (.refused .notRunning))
  configure : ∀ command error, (d.configure command).2 = .refused error →
    (d.configure command).1 = d ∧ ∃ reason, error = .invalidArgument reason
  /-- The same for a settings document that is answered. -/
  apply : ∀ document error, (d.engine.apply document).2 = .error error →
    (d.engine.apply document).1 = d.engine ∧ ∃ reason, error = .invalidArgument reason
  /-- Only the start of a stopped driver does something before it is refused. -/
  unchanged : ∀ command error, (d.step command).2 = .outcome (.refused error) →
    (d.step command).1 = d ∨ command = .start ∧ d.engine.phase = .stopped

theorem refusesAtomically (d : Driver β) : d.RefusesAtomically := by
  have hstart : d.engine.phase ≠ .stopped →
      d.step .start = (d, .outcome (.refused .alreadyRunning)) := by
    intro hphase
    rw [step, start_of_ne hphase]
  have hstop : d.engine.phase ≠ .running →
      d.step .stop = (d, .outcome (.refused .notRunning)) := by
    intro hphase
    rw [step, stop_of_ne hphase]
  have hregister : d.engine.phase ≠ .stopped → ∀ kind consumer,
      d.step (.register kind consumer) = (d, .outcome (.refused .alreadyRunning)) := by
    intro hphase kind consumer
    simp only [step, Driver.register, if_pos hphase]
  refine ⟨fun h => hstart (by simp [h]), fun h => hregister (by simp [h]),
    fun h => hstop (by simp [h]), fun _ _ => configure_of_refused, fun _ _ => apply_of_refused, ?_⟩
  intro command error hrefused
  cases command with
  | start =>
      by_cases hphase : d.engine.phase = .stopped
      · exact .inr ⟨rfl, hphase⟩
      · exact .inl (by rw [hstart hphase])
  | stop => exact .inl (stop_of_refused (Reply.outcome.inj hrefused))
  | register kind consumer =>
      by_cases hphase : d.engine.phase = .stopped
      · simp [step, Driver.register, hphase] at hrefused
      · exact .inl (by rw [hregister hphase])
  | configure command => exact .inl (configure_of_refused (Reply.outcome.inj hrefused)).1
  | tick lag => cases hrefused
  | hold kind => cases hrefused
  | unhold kind => cases hrefused
  | release kind => cases hrefused
  | finish stream kind => cases hrefused
  | holdRead => cases hrefused
  | releaseRead => cases hrefused
  | disturb change => cases hrefused

/-! ### Starts of a stopped driver -/

variable [Board.Switched β]

/-- How the start of a stopped driver ends, by the answers of its board. -/
structure StartsOrRestores (d : Driver β) : Prop where
  unswitched : ∀ board fault, Board.setMeasuring true d.engine.board = (board, .error fault) →
    d.start = ({ d with engine := d.engine.tried board [.measure true false] },
      .refused fault.toError) ∧
    d.start.1.engine.Idle ∧ d.start.1.engine.measuring = d.engine.measuring
  unrouted : ∀ board board' fault, Board.setMeasuring true d.engine.board = (board, .ok ()) →
    Board.selectBridge d.engine.store.snapshot.bridge board = (board', .error fault) →
    d.start = ({ d with
        engine := d.engine.tried (Board.setMeasuring false board').1 [.measure true true,
          .select d.engine.store.snapshot.bridge false, .measure false true] },
      .refused fault.toError) ∧
    d.start.1.engine.Idle ∧ d.start.1.engine.measuring = false
  armed : ∀ board board', Board.setMeasuring true d.engine.board = (board, .ok ()) →
    Board.selectBridge d.engine.store.snapshot.bridge board = (board', .ok ()) →
    d.start.2 = .done ∧ d.start.1.engine.Streaming

theorem startsOrRestores {d : Driver β} (hi : d.engine.Idle) (hdeadlines : d.engine.HasDeadlines) :
    d.StartsOrRestores where
  unswitched board fault h := by
    obtain ⟨heq, hmeasuring⟩ := hi.start_of_unswitched hdeadlines h
    simp only [start, heq]
    exact ⟨trivial, hi.tried _ _, hmeasuring⟩
  unrouted board board' fault h h' := by
    obtain ⟨heq, hmeasuring⟩ := hi.start_of_unrouted hdeadlines h h'
    simp only [start, heq]
    exact ⟨trivial, hi.tried _ _, hmeasuring _⟩
  armed board board' h h' := by
    rw [d.start_engine.1, d.start_engine.2]
    exact hi.start_of_armed hdeadlines h h'

/-- A stream of which no read is open is between two ticks. -/
theorem closed_of_readiness {d : Driver β} (hs : d.engine.Streaming) (h : d.readiness ≠ .stuck) :
    ∀ run, d.engine.run = some run → run.openTick = none := by
  intro run hrun
  obtain ⟨run₀, hrun₀, hcrashed⟩ := hs.alive
  obtain rfl : run = run₀ := Option.some.inj (hrun.symm.trans hrun₀)
  cases hopen : run.openTick with
  | none => rfl
  | some tick => exact absurd (by simp [readiness, hs.phase, hrun, hcrashed, hopen]) h

/-! ### Runs -/

/-- A tick keeps the stream going. -/
theorem tick_streaming (hreads : Board.ReadsReturn β) {d : Driver β} (hs : d.engine.Streaming)
    (lag : Duration) : (d.tick lag).1.engine.Streaming := by
  rcases d.tick_cases lag with ⟨-, heq⟩ | ⟨run, run', tick, -, hrun, hrun', -, -, -, heq⟩
  · rw [heq]
    exact hs
  · have hbegun : (d.begun run lag).engine.Streaming := hs.beginTick hrun lag
    rw [heq]
    split
    · exact hbegun
    · exact hbegun.endTick hreads hrun' tick

/-- Every command keeps the driver in order and comes to an end. -/
theorem step_inOrder {off : Prop} (hreads : Board.ReadsReturn β) {d : Driver β}
    (hd : d.engine.InOrder off) (hdeadlines : d.engine.HasDeadlines) {command : Command β}
    (hspares : ∀ change, command = .disturb change → ∀ board : β,
      Board.Switched.measuring (change board) = Board.Switched.measuring board)
    (hready : command = .stop → d.readiness ≠ .stuck) :
    (d.step command).1.engine.InOrder off ∧ (d.step command).2 ≠ .outcome .brokenOff := by
  have hstreaming : ∀ {run : Run}, d.engine.run = some run → d.engine.Streaming := by
    intro run hrun
    cases hd with
    | idle hi _ => exact absurd (hrun.symm.trans hi.run) (by simp)
    | streaming hs => exact hs
  cases command with
  | start =>
      simp only [step, d.start_engine.1, d.start_engine.2, ne_eq, Reply.outcome.injEq]
      cases hd with
      | idle hi hoff => exact hi.start_inOrder hdeadlines hoff
      | streaming hs =>
          have hrunning : d.engine.phase ≠ .stopped := by simp [hs.phase]
          simp only [Engine.start, if_pos hrunning]
          exact ⟨.streaming hs, by simp⟩
  | stop =>
      simp only [step, d.stop_engine.1, d.stop_engine.2, ne_eq, Reply.outcome.injEq]
      cases hd with
      | idle hi hoff =>
          rw [Engine.stop_eq_of_ne (by simp [hi.phase])]
          exact ⟨.idle hi hoff, by simp⟩
      | streaming hs =>
          obtain ⟨hdone, hidle, hoff⟩ := hs.stop (closed_of_readiness hs (hready rfl))
          exact ⟨.idle hidle fun _ => hoff, by simp [hdone]⟩
  | tick lag =>
      refine ⟨?_, by simp [step]⟩
      simp only [step]
      rcases d.tick_cases lag with ⟨-, heq⟩ | ⟨run, -, -, -, hrun, -⟩
      · rw [heq]
        exact hd
      · exact .streaming (tick_streaming hreads (hstreaming hrun) lag)
  | releaseRead =>
      refine ⟨?_, by simp [step]⟩
      simp only [step]
      rcases d.releaseRead_cases with ⟨run, tick, hrun, -, heq⟩ | ⟨-, heq⟩
      · rw [heq]
        exact .streaming ((hstreaming hrun).endTick hreads hrun tick)
      · rw [heq]
        exact hd
  | register kind consumer =>
      simp only [step, Driver.register]
      split <;> exact ⟨hd, by simp⟩
  | configure command =>
      simp only [step]
      cases hrun : command.run d.engine.store with
      | ok store =>
          rw [configure_of_ok hrun]
          exact ⟨hd.ofStore (Settings.Command.run_frozen hrun), by simp⟩
      | error refusal =>
          rw [configure_of_error hrun]
          exact ⟨hd, by simp⟩
  | hold kind => exact ⟨hd, by simp [step]⟩
  | unhold kind => exact ⟨hd, by simp [step]⟩
  | release kind => exact ⟨hd, by simp [step]⟩
  | finish stream kind => exact ⟨hd, by simp [step]⟩
  | holdRead => exact ⟨hd, by simp [step]⟩
  | disturb change => exact ⟨hd.ofBoard (hspares change rfl d.engine.board), by simp [step]⟩

theorem inOrder_after {off : Prop} (hreads : Board.ReadsReturn β) (commands : List (Command β)) :
    ∀ {d : Driver β}, d.Sound → d.engine.InOrder off → d.engine.HasDeadlines →
      (∀ change, .disturb change ∈ commands → ∀ board : β,
        Board.Switched.measuring (change board) = Board.Switched.measuring board) →
      d.StopsBetweenReads commands →
      (d.after commands).engine.InOrder off ∧
        ∀ reply ∈ (d.runAll commands).2, reply ≠ .outcome .brokenOff := by
  induction commands with
  | nil => exact fun _ hinOrder _ _ _ => ⟨hinOrder, by simp [runAll]⟩
  | cons command rest ih =>
      intro d hd hinOrder hdeadlines hspares hstops
      obtain ⟨hready, hstops'⟩ := hstops.of_cons
      obtain ⟨hinOrder', hreply⟩ := step_inOrder hreads hinOrder hdeadlines
        (fun change heq => hspares change (heq ▸ List.mem_cons_self)) hready
      have hdeadlines' := hdeadlines.of_config (config_after hd [command])
      obtain ⟨hinOrder'', hreplies⟩ := ih (hd.after [command]) hinOrder' hdeadlines'
        (fun change hmem => hspares change (List.mem_cons_of_mem _ hmem)) hstops'
      exact ⟨hinOrder'', List.forall_mem_cons.mpr ⟨hreply, hreplies⟩⟩

/-- How a driver stands between two commands. The flag says that its board did not measure
when it was built. -/
structure StandsInOrder (off : Prop) (d : Driver β) : Prop where
  settled : d.engine.phase = .stopped ∨ d.engine.phase = .running
  running : d.engine.phase = .running ↔ d.engine.store.frozen = true ∧
    d.engine.custody = .sampling ∧ d.engine.measuring = true
  frozen : d.engine.phase = .running ↔ d.engine.store.frozen = true
  sampling : d.engine.phase = .running ↔ d.engine.custody = .sampling
  parked : d.engine.phase = .stopped ↔ d.engine.custody = .parked
  measuring : off → (d.engine.phase = .running ↔ d.engine.measuring = true)

theorem standsInOrder {off : Prop} {d : Driver β} (h : d.engine.InOrder off) :
    d.StandsInOrder off := by
  cases h with
  | idle hi hoff =>
      constructor <;> simp_all [hi.phase, hi.custody, hi.writable]
  | streaming hs =>
      constructor <;> simp [hs.phase, hs.custody, hs.frozen, hs.measuring]

/-- A driver that is given up between two ticks is stopped, and its board does not measure. -/
structure ShutsDown (off : Prop) (d : Driver β) : Prop where
  idle : d.shutDown.engine.Idle
  done : d.engine.phase = .running → d.stop.2 = .done ∧ d.shutDown.engine.measuring = false
  measuring : off → d.shutDown.engine.measuring = false

theorem shutsDown {off : Prop} {d : Driver β} (h : d.engine.InOrder off)
    (hready : d.readiness ≠ .stuck) : d.ShutsDown off := by
  have hshutDown : d.shutDown.engine = d.engine.stop.1 := d.stop_engine.1
  cases h with
  | idle hi hoff =>
      rw [Engine.stop_eq_of_ne (by simp [hi.phase])] at hshutDown
      constructor
      · rw [hshutDown]
        exact hi
      · intro hrunning
        rw [hi.phase] at hrunning
        cases hrunning
      · rw [hshutDown]
        exact hoff
  | streaming hs =>
      obtain ⟨hdone, hidle, hmeasuring⟩ := hs.stop (closed_of_readiness hs hready)
      rw [← hshutDown] at hidle hmeasuring
      exact ⟨hidle, fun _ => ⟨d.stop_engine.2.trans hdone, hmeasuring⟩, fun _ => hmeasuring⟩

/-- In every run of a driver whose reads return before the deadline of a stop, it stands in
order after each command, every command comes to an end, those that are refused change
nothing, and a start that fails leaves it stopped.

That a stop has a deadline is no limit that a driver is built under. Without it the first start
leaves the driver halfway (`halfway_of_endless`), and no command brings it back
(`starting_for_good`). -/
theorem lifecycle_kept (hreads : Board.ReadsReturn β) {plan : DriverPlan β} {new : Driver β}
    (hbuild : plan.build = .ok new)
    (hdeadline : (Pace.stopGrace? plan.config.readTimeout 1).isSome = true)
    {commands : List (Command β)}
    (hspares : ∀ change, .disturb change ∈ commands → ∀ board : β,
      Board.Switched.measuring (change board) = Board.Switched.measuring board)
    (hstops : new.StopsBetweenReads commands) :
    (new.after commands).StandsInOrder (new.engine.measuring = false) ∧
      (∀ reply ∈ (new.runAll commands).2, reply ≠ .outcome .brokenOff) ∧
      (new.after commands).RefusesAtomically ∧
      ((new.after commands).engine.phase = .stopped → (new.after commands).StartsOrRestores) ∧
      ((new.after commands).readiness ≠ .stuck →
        (new.after commands).ShutsDown (new.engine.measuring = false)) := by
  have hnew := sound_of_build hbuild
  obtain ⟨board, store, -, hstore, heq⟩ := build_inv hbuild
  have hconfig : new.engine.config = plan.config := by
    rw [heq]
    rfl
  have hdeadlines : new.engine.HasDeadlines := by
    unfold Engine.HasDeadlines
    rw [hconfig]
    exact Pace.stopGrace?_isSome hdeadline
  have hidle : new.engine.Idle := by
    rw [heq]
    exact ⟨rfl, rfl, (store_of_plan hstore).2, rfl⟩
  obtain ⟨hinOrder, hreplies⟩ :=
    inOrder_after hreads commands hnew (.idle hidle id) hdeadlines hspares hstops
  refine ⟨standsInOrder hinOrder, hreplies, refusesAtomically _, ?_, shutsDown hinOrder⟩
  intro hstopped
  cases hinOrder with
  | idle hi _ =>
      refine startsOrRestores hi ?_
      unfold Engine.HasDeadlines
      rw [config_after hnew commands]
      exact hdeadlines
  | streaming hs =>
      rw [hs.phase] at hstopped
      cases hstopped

/-- A driver on a board that first cannot be switched on, and then cannot be routed. -/
def tripping : DriverPlan Board.Tripping where
  board := some { switches := [some .failLine], routes := [some .timeout] }
  config := { batchRows := 2 }

/-- The driver that is built from it. -/
def trippingDriver : Driver Board.Tripping where
  engine := tripping.engine { switches := [some .failLine], routes := [some .timeout] }
    (.ofShape tripping.config.shape)

/-- Two starts that fail, one that succeeds, and commands that are refused meanwhile. -/
def trips : List (Command Board.Tripping) :=
  [.start, .start, .configure (.setBurstSize 3), .start, .start, .register .button "late", .tick 0,
    .configure (.setBurstSize 3), .stop, .stop]

theorem lifecycle_kept_tripping :
    tripping.build = .ok trippingDriver ∧
      (Pace.stopGrace? tripping.config.readTimeout 1).isSome = true ∧
      (∀ change, .disturb change ∈ trips → ∀ board,
        Board.Switched.measuring (change board) = Board.Switched.measuring board) ∧
      trippingDriver.StopsBetweenReads trips ∧
      (trippingDriver.after trips).StandsInOrder (trippingDriver.engine.measuring = false) ∧
      (trippingDriver.runAll trips).2 =
        [.outcome (.refused (.acquisitionFault "board FAIL line asserted")),
          .outcome (.refused (.acquisitionFault "read timed out")), .outcome .done, .outcome .done,
          .outcome (.refused .alreadyRunning), .outcome (.refused .alreadyRunning), .tick .done,
          .outcome (.refused (.invalidArgument
            "BurstSize can only change while the stream is stopped")),
          .outcome .done, .outcome (.refused .notRunning)] := by
  have hspares : ∀ change, .disturb change ∈ trips → ∀ board,
      Board.Switched.measuring (change board) = Board.Switched.measuring board := by
    intro change hmem
    simp [trips] at hmem
  have hstops : trippingDriver.StopsBetweenReads trips := by
    refine .cons (by simp) <| .cons (by simp) <| .cons (by simp) <| .cons (by simp) <|
      .cons (by simp) <| .cons (by simp) <| .cons (by simp) <| .cons (by simp) <|
      .cons (fun _ => by decide) <| .cons (fun _ => by decide) .nil
  obtain ⟨hstands, -⟩ :=
    lifecycle_kept Board.Tripping.readsReturn (rfl : tripping.build = .ok trippingDriver) (by decide)
      hspares hstops
  exact ⟨rfl, by decide, hspares, hstops, hstands, by decide⟩

/-- A read may take as long as a duration can be. -/
def endless : DriverPlan Board.Scripted where
  board := some {}
  config := { readTimeout := Duration.longest }

/-- The limits of a driver do not exclude that a stop has no deadline. Nothing is wrong with its
board and it is asked for nothing but a start, which is broken off after the shape was frozen. -/
theorem halfway_of_endless : Board.ReadsReturn Board.Scripted ∧
    ∃ new, endless.build = .ok new ∧ new.StopsBetweenReads [.start] ∧
      new.StandsInOrder (new.engine.measuring = false) ∧
      (new.runAll [.start]).2 = [.outcome .brokenOff] ∧
      (new.after [.start]).engine.phase = .starting ∧
      (new.after [.start]).engine.store.frozen = true ∧
      ¬(new.after [.start]).StandsInOrder (new.engine.measuring = false) := by
  refine ⟨Board.Scripted.readsReturn, _, rfl, .cons (by simp) .nil, ?_, rfl, rfl, rfl, ?_⟩
  · exact standsInOrder (.idle ⟨rfl, rfl, rfl, rfl⟩ id)
  · intro hstands
    rcases hstands.settled with hphase | hphase <;> cases hphase

end Board

end QuadDaq.Driver

import QuadDaq.Cli.Program
import QuadDaq.Proofs.Board.Simulated
import QuadDaq.Proofs.Decimal.Seconds
import QuadDaq.Proofs.Driver.Deadlines

/-!
# For how long a stream runs

**A stream that the command starts can be stopped at every look at the clock**, if its time is less
than `2 ^ 64` seconds (`stream_settled_by_time`). A time that is not a positive number is refused
before anything else is looked at, so it makes no difference on which driver. From `2 ^ 64` seconds
on the time passes the check all the same, and the command is broken off when the stream runs
already (`aborted_while_streaming`).

Between the start and the stop nothing but ticks happens to the driver, and what a tick keeps
(`Underway.tick`) is there at every look (`Underway.pollMany`).
-/

namespace QuadDaq

instance : Board.Switched Board.Simulated where
  measuring := Board.Simulated.measuring
  switchOff_ok _ := rfl
  setMeasuring_measuring _ _ := rfl
  selectBridge_measuring _ _ := rfl
  read_measuring timeout board := by
    rcases board.read_cases timeout with ⟨-, h⟩ | ⟨-, -, h⟩ | ⟨-, -, -, h⟩ | ⟨-, -, -, h⟩ <;> rw [h]
  level_measuring _ := rfl

/-! ### Streams that were started -/

section Board

variable {β : Type} [Board β] [Board.Switched β]

/-- A board that is armed measures. -/
theorem Engine.measuring_of_arm {e armed : Engine β} (h : e.arm = (armed, .ok ())) :
    armed.measuring = true := by
  have hswitched := Board.Switched.setMeasuring_measuring true e.board
  simp only [arm, setMeasuring, selectBridge] at h
  rcases hon : Board.setMeasuring true e.board with ⟨board, fault | ⟨⟨⟩⟩⟩
  · simp [hon] at h
  have hrouted := Board.Switched.selectBridge_measuring e.store.snapshot.bridge board
  rw [hon] at h hswitched
  rcases hselect : Board.selectBridge e.store.snapshot.bridge board with ⟨board', fault | ⟨⟨⟩⟩⟩
  · simp [note, hselect] at h
  · rw [hselect] at hrouted
    simp only [note, hselect, Prod.mk.injEq, and_true] at h
    rw [← h]
    exact hrouted.trans hswitched

/-- A stream that was started runs, and is between two ticks. -/
theorem Engine.start_streaming {e : Engine β} (h : e.start.2 = .done) :
    e.start.1.Streaming ∧ ∀ run, e.start.1.run = some run → run.openTick = none := by
  obtain ⟨board, log, result, harm', -⟩ := arm_eq e.attempted.retimed
  have hends := e.start_ends
  generalize e.start = ending at hends h ⊢
  cases hends with
  | launched _ _ harm =>
      have hmeasuring := measuring_of_arm harm
      cases harm.symm.trans harm'
      refine ⟨⟨rfl, rfl, rfl, hmeasuring, _, rfl, rfl⟩, ?_⟩
      rintro run ⟨⟩
      rfl
  | _ => cases h

theorem Engine.Streaming.endTick_closed {e : Engine β} (hs : e.Streaming)
    (hreads : Board.ReadsReturn β) (run : Run) (tick : OpenTick) :
    ∀ run', (e.endTick run tick).1.run = some run' → run'.openTick = none := by
  have hsampling : e.custody ≠ .awaited := by simp [hs.custody]
  cases hresult : run.sampler.result? tick.snapshot (Board.read e.config.readTimeout e.board).2 with
  | none => exact absurd (outcome_eq_crash hresult) (hreads _ _)
  | some result =>
      obtain ⟨board, clock, late, deadline, log, -, -, -, hleaves⟩ := endTick_of_result hresult
      generalize (e.endTick run tick).1 = e' at hleaves ⊢
      cases hleaves with
      | goesOn =>
          rintro run' ⟨⟩
          rfl
      | ends hawaited _ _ => exact absurd hawaited hsampling

/-- A tick whose read returns leaves the stream between two ticks. -/
theorem Driver.tick_closed (hreads : Board.ReadsReturn β) {d : Driver β} (hs : d.engine.Streaming)
    (hheld : d.readHeld = false) (hclosed : ∀ run, d.engine.run = some run → run.openTick = none)
    (lag : Duration) : ∀ run, (d.tick lag).1.engine.run = some run → run.openTick = none := by
  rcases d.tick_cases lag with ⟨-, heq⟩ | ⟨run, run', tick, -, hrun, -, -, -, -, heq⟩
  · rw [heq]
    exact hclosed
  · have hbegun : (d.begun run lag).engine.Streaming := hs.beginTick hrun lag
    rw [heq, hheld, if_neg (by simp)]
    exact hbegun.endTick_closed hreads run' tick

end Board

namespace Cli

theorem Streaming.foldl_count_driver (events : List DeliveryEvent) :
    ∀ s : Streaming, (events.foldl count s).driver = s.driver := by
  induction events with
  | nil => exact fun _ => rfl
  | cons event rest ih =>
      intro s
      rw [List.foldl_cons, ih]
      cases event <;> rfl

/-- Between two looks at the clock the driver runs to an instant. -/
theorem Streaming.poll_driver (s : Streaming) :
    ∃ instant, s.poll.1.driver = (takeDeliveries (runUntil instant s.driver)).1 := by
  rw [poll]
  -- The instant is a multiple of a large number; what depends on it must not be computed.
  split
  next driver events heq =>
  rw [foldl_count_driver]
  exact ⟨_, (congrArg Prod.fst heq).symm⟩

theorem Streaming.pollMany_succ (s : Streaming) (n : Nat) :
    (s.pollMany (n + 1)).1 = (s.poll.1.pollMany n).1 := by
  have hsteps : ∀ polled, s.poll = polled → (s.pollMany (n + 1)).1 = (polled.1.pollMany n).1 := by
    intro polled hpolled
    rewrite [pollMany, hpolled]
    rfl
  exact hsteps _ rfl

/-- A stream runs on the driver. Unless its reads are held it is between two ticks. -/
structure Underway (held : Bool) (d : SimDriver) : Prop where
  streaming : d.engine.Streaming
  readHeld : d.readHeld = held
  closed : held = false → ∀ run, d.engine.run = some run → run.openTick = none

namespace Underway

variable {held : Bool} {d : SimDriver}

theorem tick (h : Underway held d) (lag : Duration) : Underway held (d.tick lag).1 where
  streaming := Driver.tick_streaming Board.Simulated.readsReturn h.streaming lag
  readHeld := by
    rcases d.tick_cases lag with ⟨-, heq⟩ | ⟨run, run', tick, -, -, -, -, -, -, heq⟩
    · rw [heq]
      exact h.readHeld
    · rw [heq]
      split <;> exact h.readHeld
  closed hheld := Driver.tick_closed Board.Simulated.readsReturn h.streaming
    (h.readHeld.trans hheld) (h.closed hheld) lag

theorem ticksUntil (instant : Nat) (n : Nat) :
    ∀ {d : SimDriver}, Underway held d → Underway held (ticksUntil instant n d) := by
  induction n with
  | zero => exact fun h => h
  | succ n ih =>
      intro d h
      rw [Cli.ticksUntil]
      split
      · exact ih (h.tick 0)
      · exact h

theorem runUntil (instant : Nat) (h : Underway held d) : Underway held (runUntil instant d) := by
  rw [Cli.runUntil]
  exact ticksUntil _ _ h

theorem takeDeliveries (h : Underway held d) : Underway held (takeDeliveries d).1 where
  streaming := ⟨h.streaming.phase, h.streaming.custody, h.streaming.frozen, h.streaming.measuring,
    h.streaming.alive⟩
  readHeld := h.readHeld
  closed := h.closed

theorem poll {s : Streaming} (h : Underway held s.driver) : Underway held s.poll.1.driver := by
  obtain ⟨instant, hdriver⟩ := s.poll_driver
  rw [hdriver]
  exact (h.runUntil instant).takeDeliveries

theorem pollMany (n : Nat) :
    ∀ {s : Streaming}, Underway held s.driver → Underway held (s.pollMany n).1.driver := by
  induction n with
  | zero => exact fun h => h
  | succ n ih =>
      intro s h
      rw [s.pollMany_succ]
      exact ih h.poll

end Underway

/-! ### Stopping it -/

/-- The stream can be stopped now. Then it has ended, and its board is switched off unless a read
is held. -/
structure Streaming.Stoppable (s : Streaming) : Prop where
  stops : s.driver.stop.2 = .done
  stopped : s.driver.stop.1.engine.phase = .stopped
  switchedOff : s.driver.readHeld = false →
    s.driver.stop.1.engine.Idle ∧ s.driver.stop.1.engine.measuring = false
  summary : ∃ prints, s.finish = .ok prints

theorem Underway.stoppable {held : Bool} {s : Streaming} (h : Underway held s.driver) :
    s.Stoppable := by
  obtain ⟨run, hrun, -⟩ := h.streaming.alive
  have hstop : s.driver.stop.2 = .done ∧ s.driver.stop.1.engine.phase = .stopped := by
    rw [s.driver.stop_engine.1, s.driver.stop_engine.2]
    simp only [Engine.stop, h.streaming.phase, hrun]
    exact ⟨trivial, trivial⟩
  refine ⟨hstop.1, hstop.2, fun hheld => ?_, ?_⟩
  · rw [s.driver.stop_engine.1]
    exact (h.streaming.stop (h.closed (h.readHeld.symm.trans hheld))).2
  · rw [Streaming.finish]
    split
    · next heq => simp [heq] at hstop
    · exact ⟨_, rfl⟩

/-! ### Beginning -/

/-- The command admits a time that is a positive number. -/
def Admitted (seconds : Float) : Prop := seconds.isFinite = true ∧ 0 < Decimal.value seconds

theorem admitted_iff {seconds : Float} :
    (seconds.isFinite && seconds > 0.0) = true ↔ Admitted seconds := by
  rw [Bool.and_eq_true, decide_eq_true_iff]
  exact and_congr_right fun hfinite => Decimal.zero_lt_iff hfinite

/-- How far the command comes with the driver: it selects the bridge and starts the stream. -/
def opened (d : SimDriver) (bridge : Option Int) : SimDriver × Outcome :=
  match selectBridge d bridge with
  | (d, .done) => startPrinting d
  | r => r

/-- Selecting the bridge is refused, or leaves everything but the store as it is. -/
theorem selectBridge_cases (d : SimDriver) (bridge : Option Int) :
    (∃ e, selectBridge d bridge = (d, .refused e)) ∨
    ∃ d', selectBridge d bridge = (d', .done) ∧ d'.engine.config = d.engine.config := by
  cases bridge with
  | none => exact .inr ⟨d, rfl, rfl⟩
  | some b =>
      cases hrun : (Settings.Command.setBridge b).run d.engine.store with
      | ok store => exact .inr ⟨_, Driver.configure_of_ok hrun, rfl⟩
      | error refusal => exact .inl ⟨_, Driver.configure_of_error hrun⟩

/-- Registering the printers is refused, or else the stream is started. -/
theorem startPrinting_cases (d : SimDriver) :
    (∃ d' e, startPrinting d = (d', .refused e)) ∨
    ∃ d' : SimDriver, startPrinting d = d'.start ∧ d'.engine.config = d.engine.config := by
  by_cases hphase : d.engine.phase ≠ .stopped
  · exact .inl ⟨d, .alreadyRunning, by simp [startPrinting, Driver.register, hphase]⟩
  · refine .inr ⟨{ d with
      delivery := (d.delivery.register .button printer).register .error printer }, ?_, rfl⟩
    simp only [startPrinting, Driver.register, if_neg hphase]

theorem opened_cases (d : SimDriver) (bridge : Option Int) :
    (∃ d' e, opened d bridge = (d', .refused e)) ∨
    ∃ d' : SimDriver, opened d bridge = d'.start ∧ d'.engine.config = d.engine.config := by
  rw [opened]
  rcases selectBridge_cases d bridge with ⟨e, hselect⟩ | ⟨d', hselect, hconfig⟩
  · exact .inl ⟨d, e, by rw [hselect]⟩
  · rw [hselect]
    refine (startPrinting_cases d').imp_right ?_
    rintro ⟨d'', hstart, hconfig'⟩
    exact ⟨d'', hstart, hconfig'.trans hconfig⟩

/-- Only the time is looked at before the driver is. -/
theorem beginStream_of_admitted (d : SimDriver) (json : Bool) {o : StreamOptions}
    (h : Admitted o.seconds) :
    beginStream d json o =
      match opened d o.bridge with
      | (_, .refused e) => .refused (.ofDriver e)
      | (d, .brokenOff) => .brokenOff d
      | (d, .done) =>
        match Duration.ofSeconds? o.seconds with
        | none => .brokenOff d
        | some length =>
          .running
            { driver := d, json := json, stats := o.stats, started := d.engine.clock.elapsed
              length := length } := by
  rw [beginStream, admitted_iff.mpr h, opened]
  rcases selectBridge_cases d o.bridge with ⟨e, hselect⟩ | ⟨d', hselect, -⟩ <;> rw [hselect] <;> rfl

/-- A stream that the command has started runs. -/
theorem underway_of_opened {d : SimDriver} {bridge : Option Int} (h : (opened d bridge).2 = .done) :
    Underway (opened d bridge).1.readHeld (opened d bridge).1 := by
  rcases opened_cases d bridge with ⟨d', e, heq⟩ | ⟨d', heq, -⟩
  · rw [heq] at h
    cases h
  · rw [heq, d'.start_engine.2] at h
    obtain ⟨hstreaming, hclosed⟩ := Engine.start_streaming h
    rw [heq]
    rw [← d'.start_engine.1] at hstreaming hclosed
    exact ⟨hstreaming, rfl, fun _ => hclosed⟩

/-! ### Times -/

theorem beginStream_of_refused {d : SimDriver} (json : Bool) {o : StreamOptions} {e : DriverError}
    (h : Admitted o.seconds) (hopened : (opened d o.bridge).2 = .refused e) :
    beginStream d json o = .refused (.ofDriver e) := by
  rcases heq : opened d o.bridge with ⟨d', outcome⟩
  rw [heq] at hopened
  subst hopened
  rw [beginStream_of_admitted d json h, heq]

/-- A time that is a duration is that of the stream. -/
theorem beginStream_of_some {d : SimDriver} (json : Bool) {o : StreamOptions} {length : Duration}
    (h : Admitted o.seconds) (hopened : (opened d o.bridge).2 = .done)
    (hlength : Duration.ofSeconds? o.seconds = some length) :
    ∃ s, beginStream d json o = .running s ∧ s.driver = (opened d o.bridge).1 ∧
      s.length = length := by
  rcases heq : opened d o.bridge with ⟨d', outcome⟩
  rw [heq] at hopened
  subst hopened
  rw [beginStream_of_admitted d json h, heq, hlength]
  exact ⟨_, rfl, rfl, rfl⟩

/-- Any other time is the end of the command, after the start. -/
theorem beginStream_of_none {d : SimDriver} (json : Bool) {o : StreamOptions}
    (h : Admitted o.seconds) (hopened : (opened d o.bridge).2 = .done)
    (hnone : Duration.ofSeconds? o.seconds = none) :
    beginStream d json o = .brokenOff (opened d o.bridge).1 := by
  rcases heq : opened d o.bridge with ⟨d', outcome⟩
  rw [heq] at hopened
  subst hopened
  rw [beginStream_of_admitted d json h, heq, hnone]

/-- What becomes of the stream command, by its time and by how far it comes with the driver. -/
structure SettledByTime (d : SimDriver) (json : Bool) (o : StreamOptions) : Prop where
  /-- For a time that is not a positive number no driver is touched. -/
  refused : ¬Admitted o.seconds → beginStream d json o = .refused (secondsFailure o.seconds) ∧
    ∃ text, secondsFailure o.seconds = .ofDriver (.invalidArgument text)
  /-- Where no stream starts the time makes no difference. -/
  unopened : Admitted o.seconds → ∀ e, (opened d o.bridge).2 = .refused e →
    beginStream d json o = .refused (.ofDriver e)
  /-- A stream that starts for a time below the limit can be stopped at every look. -/
  running : Admitted o.seconds → Decimal.value o.seconds < (2 ^ 64 : Nat) →
    (opened d o.bridge).2 = .done →
      ∃ s, beginStream d json o = .running s ∧ s.driver = (opened d o.bridge).1 ∧
        Duration.ofSeconds? o.seconds = some s.length ∧ ∀ n, (s.pollMany n).1.Stoppable
  /-- For a longer time the stream starts as well, and nobody stops it. -/
  brokenOff : Admitted o.seconds → ¬Decimal.value o.seconds < (2 ^ 64 : Nat) →
    (opened d o.bridge).2 = .done →
      beginStream d json o = .brokenOff (opened d o.bridge).1 ∧
        (opened d o.bridge).1.engine.Streaming
  /-- The start itself comes to an end if the waits of the driver are representable. -/
  starts : d.engine.HasDeadlines → (opened d o.bridge).2 ≠ .brokenOff

/-- On every driver and for every time the stream command is refused before it starts a stream, or
starts one that it can stop, unless the time is `2 ^ 64` seconds or more. -/
theorem stream_settled_by_time (d : SimDriver) (json : Bool) (o : StreamOptions) :
    SettledByTime d json o where
  refused h := by
    refine ⟨?_, _, rfl⟩
    rw [beginStream, if_pos (by rw [Bool.eq_false_iff.mpr (mt admitted_iff.mp h)]; rfl)]
  unopened h e hopened := beginStream_of_refused json h hopened
  running h hlt hopened := by
    obtain ⟨length, hlength⟩ := Option.isSome_iff_exists.mp
      (Duration.ofSeconds?_isSome_iff.mpr ⟨h.1, h.2.le, hlt⟩)
    obtain ⟨s, hbegin, hdriver, rfl⟩ := beginStream_of_some json h hopened hlength
    have hunderway : Underway _ s.driver := hdriver ▸ underway_of_opened hopened
    exact ⟨s, hbegin, hdriver, hlength, fun n => (Underway.pollMany n hunderway).stoppable⟩
  brokenOff h hge hopened := by
    have hnone : Duration.ofSeconds? o.seconds = none := by
      rw [← Option.not_isSome_iff_eq_none, Duration.ofSeconds?_isSome_iff]
      exact fun hsome => hge hsome.2.2
    exact ⟨beginStream_of_none json h hopened hnone, (underway_of_opened hopened).streaming⟩
  starts hdeadlines := by
    rcases opened_cases d o.bridge with ⟨d', e, heq⟩ | ⟨d', heq, hconfig⟩
    · rw [heq]
      simp
    · rw [heq, d'.start_engine.2]
      exact Engine.start_ne_brokenOff (hdeadlines.of_config hconfig)

/-- A driver on a board that always delivers the same row. -/
def steady : DriverPlan Board.Simulated where
  board := some (.constant #v[1.0, 2.0, 3.0, 4.0])

/-- As many seconds as a duration cannot have. -/
def tooLong : StreamOptions where
  seconds := 18446744073709551616.0

/-- The check lets these seconds pass. The program is aborted, and the board goes on measuring. -/
theorem aborted_while_streaming : ∃ d d', steady.build = .ok d ∧
    startCommand d true (.stream tooLong) = .finished ⟨[], .aborted⟩ ∧
    beginStream d true tooLong = .brokenOff d' ∧ d'.engine.Streaming := by
  have hadmitted : Admitted tooLong.seconds := admitted_iff.mp (by decide +kernel)
  have hnone : Duration.ofSeconds? tooLong.seconds = none := by decide +kernel
  obtain ⟨d, hbuild, hopened⟩ : ∃ d, steady.build = .ok d ∧ (opened d tooLong.bridge).2 = .done :=
    ⟨_, rfl, rfl⟩
  have hbegin := beginStream_of_none true hadmitted hopened hnone
  refine ⟨d, _, hbuild, ?_, hbegin, (underway_of_opened hopened).streaming⟩
  rw [startCommand, hbegin]

end Cli

end QuadDaq

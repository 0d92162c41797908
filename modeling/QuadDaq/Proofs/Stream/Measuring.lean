import QuadDaq.Proofs.Stream.Calls

/-!
# When a board measures

**A board measures exactly while a stream has it.** This is seen on boards that can tell
whether they measure (`Board.Switched`): switching them on and routing them may fail, and
leaves them as they were if it does.

An engine is in order if it is `Idle` or `Streaming`. Reads that return, and no stop in the
middle of one, leave nothing in between: half a tick keeps a stream going
(`Streaming.beginTick`, `Streaming.endTick`), a stop ends it (`Streaming.stop`), and an idle
engine starts one or is idle again (`Idle.start_of_unswitched`, `Idle.start_of_unrouted`,
`Idle.start_of_armed`).
-/

namespace QuadDaq

/-- A board that can tell whether it measures. It can always be switched off. -/
class Board.Switched (β : Type) [Board β] where
  measuring : β → Bool
  switchOff_ok (board : β) : (Board.setMeasuring false board).2 = .ok ()
  setMeasuring_measuring (on : Bool) (board : β) :
    measuring (Board.setMeasuring on board).1 =
      if (Board.setMeasuring on board).2.isOk then on else measuring board
  selectBridge_measuring (bridge : Bridge) (board : β) :
    measuring (Board.selectBridge bridge board).1 = measuring board
  read_measuring (timeout : Duration) (board : β) :
    measuring (Board.read timeout board).1 = measuring board
  level_measuring (board : β) : measuring (Board.level board).1 = measuring board

instance : Board.Switched Board.Scripted where
  measuring := Board.Scripted.measuring
  switchOff_ok _ := rfl
  setMeasuring_measuring _ _ := rfl
  selectBridge_measuring _ _ := rfl
  read_measuring _ board := by
    simp only [Board.read, Board.Scripted.read]
    split
    · rfl
    · rfl
    · split <;> rfl
  level_measuring _ := rfl

/-- A scripted board that can fail to be switched on or routed. -/
structure Board.Tripping where
  inner : Scripted := {}
  /-- How the next attempts to switch it on end. Without an entry they succeed. -/
  switches : List (Option BoardFault) := []
  /-- How the next selections end. -/
  routes : List (Option BoardFault) := []

/-- Switches it on, or fails to. -/
def Board.Tripping.switchOn (b : Tripping) : Tripping × Except BoardFault Unit :=
  let left := b.switches.tail
  match b.switches.headD none with
  | some fault => ({ b with switches := left }, .error fault)
  | none => ({ b with inner := (Board.setMeasuring true b.inner).1, switches := left }, .ok ())

instance : Board Board.Tripping where
  setMeasuring on b :=
    if on then b.switchOn else ({ b with inner := (Board.setMeasuring false b.inner).1 }, .ok ())
  selectBridge bridge b :=
    let left := b.routes.tail
    match b.routes.headD none with
    | some fault => ({ b with routes := left }, .error fault)
    | none => ({ b with inner := (Board.selectBridge bridge b.inner).1, routes := left }, .ok ())
  read timeout b :=
    ({ b with inner := (Board.read timeout b.inner).1 }, (Board.read timeout b.inner).2)
  level b := (b, (Board.level b.inner).2)

instance : Board.Switched Board.Tripping where
  measuring b := b.inner.measuring
  switchOff_ok _ := rfl
  setMeasuring_measuring on b := by
    cases on with
    | false => rfl
    | true =>
        simp only [Board.setMeasuring, if_true, Board.Tripping.switchOn]
        cases b.switches.headD none <;> rfl
  selectBridge_measuring bridge b := by
    simp only [Board.selectBridge]
    cases b.routes.headD none <;> rfl
  read_measuring timeout b := Board.Switched.read_measuring timeout b.inner
  level_measuring _ := rfl

theorem Board.Tripping.readsReturn : ReadsReturn Tripping := fun timeout b =>
  Scripted.readsReturn timeout b.inner

/-- When the wait of a stop is representable. -/
theorem Pace.stopGrace?_isSome_iff {readTimeout : Duration} {hz : Nat} :
    (stopGrace? readTimeout hz).isSome = true ↔
      readTimeout + period hz * 4 ≤ Duration.longest := by
  unfold stopGrace? Duration.times? Duration.add?
  by_cases hwait : readTimeout + period hz * 4 ≤ Duration.longest
  · have hperiods : period hz * 4 ≤ Duration.longest := Nat.le_trans (Nat.le_add_left _ _) hwait
    simp [hperiods, hwait]
  · by_cases hperiods : period hz * 4 ≤ Duration.longest <;> simp [hperiods, hwait]

/-- Ticks are farthest apart at the slowest rate. -/
theorem Pace.period_le (hz : Nat) : period hz ≤ period 1 := by
  have hquotient : 1000000 / max hz 1 ≤ 1000000 / max 1 1 :=
    Nat.div_le_div_left (by omega) (by omega)
  have hmicros : periodMicros hz ≤ periodMicros 1 :=
    Nat.max_le.mpr ⟨Nat.le_trans hquotient (Nat.le_max_left _ _), Nat.le_max_right _ _⟩
  exact Nat.mul_le_mul_right 1000 hmicros

/-- The deadline of a stop lies farthest ahead at the slowest rate. -/
theorem Pace.stopGrace?_isSome {readTimeout : Duration} (h : (stopGrace? readTimeout 1).isSome = true)
    (hz : Nat) : (stopGrace? readTimeout hz).isSome = true := by
  rw [stopGrace?_isSome_iff] at h ⊢
  exact Nat.le_trans (Nat.add_le_add_left (Nat.mul_le_mul_right 4 (period_le hz)) _) h

namespace Engine

variable {β : Type}

/-- No stream runs or ends, the controller has the board, and the shape can be written. -/
structure Idle (e : Engine β) : Prop where
  phase : e.phase = .stopped
  custody : e.custody = .parked
  writable : e.store.frozen = false
  run : e.run = none

/-- The engine after an attempt to start a stream that failed when the board was armed, with
what it asked of the board. -/
def tried (e : Engine β) (board : β) (asked : List EngineEvent) : Engine β :=
  { e with
    board := board
    log := e.log ++ asked
    attempts := e.attempts + 1
    latestRate := e.store.shape.sampleRate }

/-- A stop has a deadline at any tick rate. -/
def HasDeadlines (e : Engine β) : Prop :=
  ∀ hz, (Pace.stopGrace? e.config.readTimeout hz).isSome = true

theorem HasDeadlines.of_config {e e' : Engine β} (h : e.HasDeadlines)
    (hconfig : e'.config = e.config) : e'.HasDeadlines := by
  unfold HasDeadlines
  rw [hconfig]
  exact h

theorem Idle.tried {e : Engine β} (hi : e.Idle) (board : β) (asked : List EngineEvent) :
    (e.tried board asked).Idle :=
  ⟨hi.phase, hi.custody, hi.writable, hi.run⟩

theorem Idle.release_store {e : Engine β} (hi : e.Idle) : e.store.freeze.release = e.store := by
  have hwritable := hi.writable
  rcases hstore : e.store with ⟨snapshot, shape, frozen⟩
  rw [hstore] at hwritable
  subst hwritable
  rfl

section Board

variable [Board β] [Board.Switched β]

/-- The board converts. -/
def measuring (e : Engine β) : Bool := Board.Switched.measuring e.board

/-- A stream runs. It has the board, which measures, and the shape is frozen. -/
structure Streaming (e : Engine β) : Prop where
  phase : e.phase = .running
  custody : e.custody = .sampling
  frozen : e.store.frozen = true
  measuring : e.measuring = true
  alive : ∃ run, e.run = some run ∧ run.crashed = false

/-- The engine is idle or streams. The flag says that the board of an idle engine does not
measure. -/
inductive InOrder (off : Prop) (e : Engine β) : Prop
  | idle : e.Idle → (off → e.measuring = false) → InOrder off e
  | streaming : e.Streaming → InOrder off e

/-- The board changes by itself. -/
theorem InOrder.ofBoard {off : Prop} {e : Engine β} (h : e.InOrder off) {board : β}
    (hboard : Board.Switched.measuring board = Board.Switched.measuring e.board) :
    InOrder off { e with board := board } := by
  cases h with
  | idle hi hoff =>
      exact .idle ⟨hi.phase, hi.custody, hi.writable, hi.run⟩ fun h => hboard.trans (hoff h)
  | streaming hs =>
      exact .streaming ⟨hs.phase, hs.custody, hs.frozen, hboard.trans hs.measuring, hs.alive⟩

/-- A settings command neither freezes the shape nor releases it. -/
theorem InOrder.ofStore {off : Prop} {e : Engine β} (h : e.InOrder off) {store : Settings.Store}
    (hfrozen : store.frozen = e.store.frozen) : InOrder off { e with store := store } := by
  cases h with
  | idle hi hoff => exact .idle ⟨hi.phase, hi.custody, hfrozen.trans hi.writable, hi.run⟩ hoff
  | streaming hs =>
      exact .streaming ⟨hs.phase, hs.custody, hfrozen.trans hs.frozen, hs.measuring, hs.alive⟩

/-! ### What the functions of an engine make of its board -/

theorem setMeasuring_false_measuring (e : Engine β) :
    (e.setMeasuring false).1.measuring = false := by
  refine (Board.Switched.setMeasuring_measuring false e.board).trans ?_
  rw [Board.Switched.switchOff_ok]
  rfl

theorem route_measuring (e : Engine β) (run : Run) (snapshot : Settings.Snapshot) :
    (e.route run snapshot).1.measuring = e.measuring := by
  unfold route
  split
  · have hselect := Board.Switched.selectBridge_measuring snapshot.bridge e.board
    simp only [selectBridge]
    cases hresult : Board.selectBridge snapshot.bridge e.board with
    | mk board result =>
        rw [hresult] at hselect
        cases result <;> exact hselect
  · rfl

theorem pollButton_measuring (e : Engine β) (run : Run) :
    (e.pollButton run).1.measuring = e.measuring := by
  unfold pollButton
  split
  · rfl
  split
  · exact Board.Switched.level_measuring e.board
  · rfl

theorem beginTick_measuring (e : Engine β) (run : Run) (lag : Duration) :
    (e.beginTick run lag).1.measuring = e.measuring := by
  have hemit : ∀ (k : Nat) (signals : List Signal) (e : Engine β),
      (e.emit k signals).measuring = e.measuring := by
    intro k signals e
    obtain ⟨log, heq, -⟩ := emit_eq k signals e
    rw [heq]
    rfl
  refine (hemit _ _ _).trans ?_
  exact (pollButton_measuring _ _).trans (route_measuring e run e.store.snapshot)

omit [Board.Switched β] in
/-- The end of a tick reads the board. Unless the stream was stopped meanwhile that is all. -/
theorem endTick_board {e : Engine β} (run : Run) (tick : OpenTick) (hc : e.custody ≠ .awaited) :
    (e.endTick run tick).1.board = (Board.read e.config.readTimeout e.board).1 := by
  cases hresult : run.sampler.result? tick.snapshot (Board.read e.config.readTimeout e.board).2 with
  | none =>
      simp only [endTick, hresult]
      split
      · next hawaited => exact absurd hawaited hc
      · rfl
  | some result =>
      obtain ⟨log, hsettle, -⟩ := settle_eq
        { e with
          board := (Board.read e.config.readTimeout e.board).1
          clock := e.clock.advance tick.lag }
        run tick (Board.read e.config.readTimeout e.board).2 result
      obtain ⟨clock, late, deadline, log', hpace, -, -⟩ := pace_eq
        ({ e with
          board := (Board.read e.config.readTimeout e.board).1
          clock := e.clock.advance tick.lag
          counters := e.counters.add result
          log := log } : Engine β)
        { run with sampler := (run.sampler.advance result).1, openTick := none }
      simp only [endTick, hresult, hsettle, hpace, if_neg hc]

/-! ### Streams -/

/-- The first half of a tick keeps the stream going. -/
theorem Streaming.beginTick {e : Engine β} (hs : e.Streaming) {run : Run}
    (hrun : e.run = some run) (lag : Duration) : (e.beginTick run lag).1.Streaming := by
  obtain ⟨run₀, hrun₀, hcrashed⟩ := hs.alive
  obtain rfl : run = run₀ := Option.some.inj (hrun.symm.trans hrun₀)
  have hmeasuring := (beginTick_measuring e run lag).trans hs.measuring
  obtain ⟨board, button, polled, log, signals, heq, -⟩ := beginTick_eq e run lag
  rw [heq] at hmeasuring ⊢
  exact ⟨hs.phase, hs.custody, hs.frozen, hmeasuring, _, rfl, hcrashed⟩

/-- A read that returns ends its tick, and the stream goes on. -/
theorem Streaming.endTick {e : Engine β} (hs : e.Streaming) (hreads : Board.ReadsReturn β) {run : Run}
    (hrun : e.run = some run) (tick : OpenTick) : (e.endTick run tick).1.Streaming := by
  obtain ⟨run₀, hrun₀, hcrashed⟩ := hs.alive
  obtain rfl : run = run₀ := Option.some.inj (hrun.symm.trans hrun₀)
  have hsampling : e.custody ≠ .awaited := by simp [hs.custody]
  have hboard := endTick_board run tick hsampling
  cases hresult : run.sampler.result? tick.snapshot (Board.read e.config.readTimeout e.board).2 with
  | none => exact absurd (outcome_eq_crash hresult) (hreads _ _)
  | some result =>
      obtain ⟨board, clock, late, deadline, log, -, -, -, hleaves⟩ := endTick_of_result hresult
      generalize (e.endTick run tick).1 = e' at hboard hleaves ⊢
      have hmeasuring : e'.measuring = true := by
        rw [Engine.measuring, hboard, Board.Switched.read_measuring]
        exact hs.measuring
      cases hleaves with
      | goesOn => exact ⟨hs.phase, hs.custody, hs.frozen, hmeasuring, _, rfl, hcrashed⟩
      | ends hawaited _ _ => exact absurd hawaited hsampling

/-- A stop between two ticks leaves the engine idle, and the board does not measure. -/
theorem Streaming.stop {e : Engine β} (hs : e.Streaming)
    (hclosed : ∀ run, e.run = some run → run.openTick = none) :
    e.stop.2 = .done ∧ e.stop.1.Idle ∧ e.stop.1.measuring = false := by
  obtain ⟨run, hrun, hcrashed⟩ := hs.alive
  simp only [Engine.stop, hs.phase, hrun, hcrashed, hclosed run hrun, Option.isSome_none,
    Bool.false_eq_true, if_false]
  exact ⟨trivial, ⟨rfl, rfl, rfl, rfl⟩, setMeasuring_false_measuring e⟩

/-! ### Starts -/

section Starts

variable {e : Engine β} (hi : e.Idle) (hdeadlines : e.HasDeadlines)
include hi hdeadlines

/-- If the board cannot be switched on nothing starts. -/
theorem Idle.start_of_unswitched {board : β} {fault : BoardFault}
    (h : Board.setMeasuring true e.board = (board, .error fault)) :
    e.start = (e.tried board [.measure true false], .refused fault.toError) ∧
      (e.tried board [.measure true false]).measuring = e.measuring := by
  obtain ⟨grace, hgrace⟩ := Option.isSome_iff_exists.mp (hdeadlines e.latestRate)
  have hstopped : ¬e.phase ≠ .stopped := not_not_intro hi.phase
  have hmeasuring := Board.Switched.setMeasuring_measuring true e.board
  rw [h] at hmeasuring
  refine ⟨?_, hmeasuring⟩
  simp only [start, if_neg hstopped, hgrace, hi.custody, Custody.obstacle?, arm, setMeasuring, h,
    note, Except.isOk, Except.toBool, abandonStart, hi.release_store]
  simp only [Engine.tried, hi.phase, hi.custody, Settings.Store.freeze]
  rfl

/-- If the board cannot be routed it is switched off again, and nothing starts. -/
theorem Idle.start_of_unrouted {board board' : β} {fault : BoardFault}
    (h : Board.setMeasuring true e.board = (board, .ok ()))
    (h' : Board.selectBridge e.store.snapshot.bridge board = (board', .error fault)) :
    e.start = (e.tried (Board.setMeasuring false board').1
        [.measure true true, .select e.store.snapshot.bridge false, .measure false true],
      .refused fault.toError) ∧
      ∀ asked, (e.tried (Board.setMeasuring false board').1 asked).measuring = false := by
  obtain ⟨grace, hgrace⟩ := Option.isSome_iff_exists.mp (hdeadlines e.latestRate)
  have hstopped : ¬e.phase ≠ .stopped := not_not_intro hi.phase
  have hsnapshot : e.store.freeze.snapshot = e.store.snapshot := rfl
  refine ⟨?_, fun _ => setMeasuring_false_measuring { e with board := board' }⟩
  simp only [start, if_neg hstopped, hgrace, hi.custody, Custody.obstacle?, arm, setMeasuring, h,
    hsnapshot, selectBridge, h', Board.Switched.switchOff_ok, note, Except.isOk, Except.toBool,
    abandonStart, hi.release_store]
  simp only [Engine.tried, hi.phase, hi.custody, Settings.Store.freeze]
  rfl

/-- Else a stream starts. -/
theorem Idle.start_of_armed {board board' : β}
    (h : Board.setMeasuring true e.board = (board, .ok ()))
    (h' : Board.selectBridge e.store.snapshot.bridge board = (board', .ok ())) :
    e.start.2 = .done ∧ e.start.1.Streaming := by
  obtain ⟨before, hbefore⟩ := Option.isSome_iff_exists.mp (hdeadlines e.latestRate)
  obtain ⟨after, hafter⟩ := Option.isSome_iff_exists.mp (hdeadlines e.store.shape.sampleRate)
  have hstopped : ¬e.phase ≠ .stopped := not_not_intro hi.phase
  have hsnapshot : e.store.freeze.snapshot = e.store.snapshot := rfl
  have hshape : e.store.freeze.shape = e.store.shape := rfl
  have hswitched := Board.Switched.setMeasuring_measuring true e.board
  have hrouted := Board.Switched.selectBridge_measuring e.store.snapshot.bridge board
  rw [h] at hswitched
  rw [h'] at hrouted
  simp only [start, if_neg hstopped, hbefore, hi.custody, Custody.obstacle?, arm, setMeasuring, h,
    hsnapshot, selectBridge, h', note, Except.isOk, Except.toBool, hshape, hafter]
  exact ⟨trivial, rfl, rfl, rfl, hrouted.trans hswitched, _, rfl, rfl⟩

/-- In each of these cases the engine is in order again. -/
theorem Idle.start_inOrder {off : Prop} (hoff : off → e.measuring = false) :
    e.start.1.InOrder off ∧ e.start.2 ≠ .brokenOff := by
  rcases h : Board.setMeasuring true e.board with ⟨board, fault | ⟨⟨⟩⟩⟩
  · obtain ⟨heq, hmeasuring⟩ := hi.start_of_unswitched hdeadlines h
    rw [heq]
    exact ⟨.idle (hi.tried _ _) fun hoff' => hmeasuring.trans (hoff hoff'), by simp⟩
  rcases h' : Board.selectBridge e.store.snapshot.bridge board with ⟨board', fault | ⟨⟨⟩⟩⟩
  · obtain ⟨heq, hmeasuring⟩ := hi.start_of_unrouted hdeadlines h h'
    rw [heq]
    exact ⟨.idle (hi.tried _ _) fun _ => hmeasuring _, by simp⟩
  · obtain ⟨hdone, hstreaming⟩ := hi.start_of_armed hdeadlines h h'
    exact ⟨.streaming hstreaming, by simp [hdone]⟩

end Starts

end Board

end Engine

end QuadDaq

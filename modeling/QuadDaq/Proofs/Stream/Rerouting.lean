import QuadDaq.Proofs.Stream.Calls
import QuadDaq.Proofs.Stream.Tally

/-!
# Attempts to route the bridge

**Which attempt to route the bridge a row is read after, and what became of it.** The whole
log is looked at here, calls on the board and their success included.

* `Attempted` tells of the latest attempt: it succeeded, or it failed, was reported at once,
  and so many ticks of the stream were completed since then.
* `Answered` says that no failed attempt passes in silence. One in the middle of a stream is
  reported next, one in a start has conversions switched off again.
* `Engine.Steered` is the invariant that the latest attempt was for the bridge whose epoch the
  sampler has seen, and that the discard guard covers the rest of the settling time after it if
  it failed. Nothing else stands between a failure and the rows: it is not tried again.
-/

namespace QuadDaq

namespace EngineEvent

/-- The event is an attempt to route the bridge. -/
def isSelect : EngineEvent → Bool
  | .select .. => true
  | .measure .. | .reading .. | .ticked .. | .crashed .. | .published .. | .abandoned .. |
    .slept .. => false

/-- The event completes a tick of the stream. -/
def isTickOf (k : Nat) : EngineEvent → Bool
  | .ticked stream _ => stream == k
  | .measure .. | .select .. | .reading .. | .crashed .. | .published .. | .abandoned .. |
    .slept .. => false

/-- The event neither is an attempt to route the bridge nor completes a tick. -/
def isAside : EngineEvent → Bool
  | .select .. | .ticked .. => false
  | .measure .. | .reading .. | .crashed .. | .published .. | .abandoned .. | .slept .. => true

theorem isSelect_of_isAside {event : EngineEvent} (h : event.isAside = true) :
    event.isSelect = false := by
  cases event <;> first | rfl | cases h

theorem ticked?_of_isAside {event : EngineEvent} (h : event.isAside = true) :
    event.ticked? = none := by
  cases event <;> first | rfl | cases h

end EngineEvent

/-- A row is brought only while the guard is down. -/
theorem Sampler.discardLeft_of_isRow {s : Sampler} {snapshot : Settings.Snapshot}
    {outcome : ReadOutcome} {result : TickResult} (h : s.result? snapshot outcome = some result)
    (hrow : result.isRow = true) : s.discardLeft = 0 := by
  cases outcome with
  | row raw =>
      simp only [result?, resultOfRow, Option.some.injEq] at h
      split at h
      · cases h
        cases hrow
      · next hdown => simpa [isGuarded] using hdown
  | fault f =>
      cases h
      cases hrow
  | crash => cases h

/-! ### The latest attempt -/

/-- The latest attempt to route the bridge was for this one. If it failed, stream `k` reported
that at once and has completed at least `n` ticks since then. -/
inductive Attempted (k n : Nat) (b : Bridge) (events : List EngineEvent) : Prop
  | succeeded {earlier since : List EngineEvent} :
      events = earlier ++ .select b true :: since →
      (∀ event ∈ since, event.isSelect = false) →
      Attempted k n b events
  | failed {earlier since : List EngineEvent} (message : String) :
      events = earlier ++
        .select b false :: .published k (.error .acquisitionFault message) :: since →
      (∀ event ∈ since, event.isSelect = false) →
      n ≤ since.countP (EngineEvent.isTickOf k) →
      Attempted k n b events

/-- Every row was read after an attempt to route the bridge of its snapshot, which succeeded or
lies so many ticks back. -/
def RowsAttempted (n : Nat) (events : List EngineEvent) : Prop :=
  ∀ before k r after, events = before ++ .ticked k r :: after → r.result.isRow = true →
    Attempted k n r.snapshot.bridge before

/-- The events after a failed attempt begin with its consequence. -/
def AnswersFailure (after : List EngineEvent) : Prop :=
  (∃ k message rest, after = .published k (.error .acquisitionFault message) :: rest) ∨
    ∃ success rest, after = .measure false success :: rest

/-- Every failed attempt to route the bridge has its consequence at once. -/
def Answered (events : List EngineEvent) : Prop :=
  ∀ before b after, events = before ++ .select b false :: after → AnswersFailure after

section Lists

variable {k n m : Nat} {b : Bridge} {events added : List EngineEvent}

theorem Attempted.mono (h : Attempted k n b events) (hle : m ≤ n) : Attempted k m b events := by
  cases h with
  | succeeded heq hsince => exact .succeeded heq hsince
  | failed message heq hsince hticks => exact .failed message heq hsince (Nat.le_trans hle hticks)

/-- Ticks that are completed without another attempt put the latest one further back. -/
theorem Attempted.append (h : Attempted k n b events)
    (hadded : ∀ event ∈ added, event.isSelect = false) :
    Attempted k (n + added.countP (EngineEvent.isTickOf k)) b (events ++ added) := by
  have hall : ∀ {since : List EngineEvent}, (∀ event ∈ since, event.isSelect = false) →
      ∀ event ∈ since ++ added, event.isSelect = false :=
    fun hsince => List.forall_mem_append.mpr ⟨hsince, hadded⟩
  cases h with
  | succeeded heq hsince => exact .succeeded (by rw [heq, List.append_assoc]; rfl) (hall hsince)
  | failed message heq hsince hticks =>
      refine .failed message (by rw [heq, List.append_assoc]; rfl) (hall hsince) ?_
      rw [List.countP_append]
      exact Nat.add_le_add_right hticks _

theorem Attempted.append_asides (h : Attempted k n b events)
    (hadded : ∀ event ∈ added, event.isAside = true) : Attempted k n b (events ++ added) :=
  (h.append fun event hevent => EngineEvent.isSelect_of_isAside (hadded event hevent)).mono
    (Nat.le_add_right _ _)

/-- A row among events that were added is judged by everything before it. -/
theorem RowsAttempted.append (h : RowsAttempted n events)
    (hadded : ∀ before k r after, added = before ++ .ticked k r :: after →
      r.result.isRow = true → Attempted k n r.snapshot.bridge (events ++ before)) :
    RowsAttempted n (events ++ added) := by
  intro before k r after heq hrow
  rcases List.append_eq_append_iff.mp heq with ⟨more, rfl, hmore⟩ | ⟨more, rfl, hmore⟩
  · exact hadded more k r after hmore hrow
  · cases more with
    | nil =>
        have hfirst := hadded [] k r after hmore.symm hrow
        rwa [List.append_nil, List.append_nil] at hfirst
    | cons event more =>
        obtain ⟨rfl, -⟩ := List.cons.inj hmore
        exact h before k r more rfl hrow

theorem RowsAttempted.append_unticked (h : RowsAttempted n events)
    (hadded : ∀ event ∈ added, event.ticked? = none) : RowsAttempted n (events ++ added) := by
  refine h.append ?_
  rintro before k r after rfl -
  have := hadded (.ticked k r) (List.mem_append_right _ List.mem_cons_self)
  cases this

theorem AnswersFailure.append {after : List EngineEvent} (h : AnswersFailure after)
    (more : List EngineEvent) : AnswersFailure (after ++ more) := by
  rcases h with ⟨k, message, rest, rfl⟩ | ⟨success, rest, rfl⟩
  · exact .inl ⟨k, message, rest ++ more, rfl⟩
  · exact .inr ⟨success, rest ++ more, rfl⟩

theorem Answered.append (h : Answered events) (hadded : Answered added) :
    Answered (events ++ added) := by
  intro before b after heq
  rcases List.append_eq_append_iff.mp heq with ⟨more, rfl, hmore⟩ | ⟨more, rfl, hmore⟩
  · exact hadded more b after hmore
  · cases more with
    | nil => exact hadded [] b after hmore.symm
    | cons event more =>
        obtain ⟨rfl, rfl⟩ := List.cons.inj hmore
        exact (h before b more rfl).append added

theorem answered_nil : Answered [] := by
  intro before b after heq
  simp at heq

theorem answered_cons {event : EngineEvent} :
    Answered (event :: events) ↔
      (∀ b, event = .select b false → AnswersFailure events) ∧ Answered events := by
  constructor
  · intro h
    refine ⟨?_, fun before b after heq => h (event :: before) b after (by rw [heq]; rfl)⟩
    rintro b rfl
    exact h [] b events rfl
  · rintro ⟨hhead, htail⟩ before b after heq
    cases before with
    | nil =>
        obtain ⟨rfl, rfl⟩ := List.cons.inj heq
        exact hhead b rfl
    | cons event' before =>
        obtain ⟨rfl, rfl⟩ := List.cons.inj heq
        exact htail before b after rfl

theorem answered_of_unselected (h : ∀ event ∈ events, event.isSelect = false) :
    Answered events := by
  rintro before b after rfl
  have := h (.select b false) (List.mem_append_right _ List.mem_cons_self)
  cases this

end Lists

namespace Engine

variable {β : Type}

/-- Everything in the log. -/
def events (e : Engine β) : List EngineEvent := e.log.toList

theorem note_events (e : Engine β) (event : EngineEvent) :
    (e.note event).events = e.events ++ [event] := Array.toList_push

theorem emit_events (k : Nat) (signals : List Signal) :
    ∀ e : Engine β, (e.emit k signals).events = e.events ++ signals.map (.published k) := by
  induction signals with
  | nil => exact fun e => (List.append_nil _).symm
  | cons s rest ih =>
      intro e
      refine (ih (e.note (.published k s))).trans ?_
      rw [note_events, List.append_assoc]
      rfl

theorem published_isAside (k : Nat) (signals : List Signal) :
    ∀ event ∈ signals.map (EngineEvent.published k), event.isAside = true := by
  intro event hevent
  obtain ⟨s, -, rfl⟩ := List.mem_map.mp hevent
  rfl

/-! ### What the functions of an engine note -/

/-- Completing a tick notes it, and nothing further that counts here. -/
theorem settle_events (e : Engine β) (run : Run) (tick : OpenTick) (outcome : ReadOutcome)
    (result : TickResult) : ∃ rest, (∀ event ∈ rest, event.isAside = true) ∧
      (e.settle run tick outcome result).1.events =
        e.events ++ .ticked run.stream (run.sampler.recordOf tick outcome result) :: rest := by
  refine ⟨_, published_isAside run.stream (run.sampler.signalsOf result), ?_⟩
  refine (emit_events _ _ _).trans ?_
  rw [note_events, List.append_assoc]
  rfl

theorem pace_events (e : Engine β) (run : Run) : ∃ rest, (∀ event ∈ rest, event.isAside = true) ∧
    (e.pace run).1.events = e.events ++ rest := by
  unfold pace
  obtain ⟨deadline, late⟩ := Pace.nextDeadline run.deadline e.clock.elapsed run.period
  cases late with
  | true => exact ⟨[], by simp, (List.append_nil _).symm⟩
  | false => exact ⟨[.slept deadline], by simp [EngineEvent.isAside], note_events _ _⟩

theorem endRun_events (e : Engine β) (run : Run) (custody : Custody) :
    (e.endRun run custody).events = e.events ++ [.abandoned run.stream run.sampler.pending] :=
  note_events _ _

section Board

variable [Board β]

theorem handBack_events (e : Engine β) (run : Run) :
    ∃ rest, (∀ event ∈ rest, event.isAside = true) ∧
      (e.handBack run).events = e.events ++ rest := by
  refine ⟨[.measure false (Board.setMeasuring false e.board).2.isOk,
    .abandoned run.stream run.sampler.pending], by simp [EngineEvent.isAside], ?_⟩
  simp [events, handBack, endRun, setMeasuring, note]

/-- How the first half of a tick on a snapshot deals with the bridge. A failure is reported
with nothing in between. -/
inductive Reroutes (run : Run) (s : Settings.Snapshot) : List EngineEvent → Prop
  | seen : s.bridgeEpoch = run.sampler.epoch → Reroutes run s []
  | succeeded : s.bridgeEpoch ≠ run.sampler.epoch → Reroutes run s [.select s.bridge true]
  | failed (message : String) :
      s.bridgeEpoch ≠ run.sampler.epoch →
      Reroutes run s [.select s.bridge false,
        .published run.stream (.error .acquisitionFault message)]

theorem Reroutes.answered {run : Run} {s : Settings.Snapshot} {routing : List EngineEvent}
    (h : Reroutes run s routing) : Answered routing := by
  cases h with
  | seen _ => exact answered_nil
  | succeeded _ => simp [answered_cons, answered_nil]
  | failed message _ => simp [answered_cons, answered_nil, AnswersFailure]

theorem route_events (e : Engine β) (run : Run) (s : Settings.Snapshot) :
    ∃ routing, Reroutes run s routing ∧
      (e.route run s).1.events ++ (e.route run s).2.2.map (.published run.stream) =
        e.events ++ routing := by
  unfold route
  by_cases hsame : s.bridgeEpoch = run.sampler.epoch
  · rw [if_neg (by simp [Sampler.needsRouting, hsame])]
    exact ⟨[], .seen hsame, rfl⟩
  · rw [if_pos (by simp [Sampler.needsRouting, Ne.symm hsame])]
    simp only [selectBridge]
    obtain ⟨board, result⟩ := Board.selectBridge s.bridge e.board
    cases result with
    | ok u =>
        refine ⟨_, .succeeded hsame, (List.append_nil _).trans ?_⟩
        exact note_events _ _
    | error fault =>
        refine ⟨_, .failed fault.toError.message hsame, ?_⟩
        rw [note_events, List.append_assoc]
        rfl

theorem pollButton_events (e : Engine β) (run : Run) :
    (e.pollButton run).1.events = e.events := by
  unfold pollButton
  split
  · rfl
  · split <;> rfl

/-- The first half of a tick deals with the bridge before anything else. -/
theorem beginTick_events (e : Engine β) (run : Run) (lag : Duration) :
    ∃ routing rest, Reroutes run e.store.snapshot routing ∧
      (∀ event ∈ rest, event.isAside = true) ∧
      (e.beginTick run lag).1.events = e.events ++ (routing ++ rest) := by
  obtain ⟨routing, hroutes, hrouting⟩ := e.route_events run e.store.snapshot
  rcases hroute : e.route run e.store.snapshot with ⟨e₁, run₁, reports⟩
  rw [hroute] at hrouting
  rcases hpoll : e₁.pollButton run₁ with ⟨e₂, polled, polling⟩
  have hpolls := e₁.pollButton_events run₁
  obtain ⟨board, log, signals, hroute', -⟩ := e.route_eq run e.store.snapshot
  rw [hroute] at hroute'
  obtain rfl : run₁ = _ := congrArg (fun r => r.2.1) hroute'
  rw [hpoll] at hpolls
  refine ⟨routing, polling.map (.published run.stream) ++ [.reading e₂.config.readTimeout], hroutes,
    List.forall_mem_append.mpr ⟨published_isAside _ _, by simp [EngineEvent.isAside]⟩, ?_⟩
  have hbegin : (e.beginTick run lag).1.events =
      e₂.events ++ (reports ++ polling).map (.published run.stream) ++
        [.reading e₂.config.readTimeout] := by
    simp only [beginTick, hroute, hpoll]
    rw [note_events, emit_events]
    rfl
  simp only at hrouting hpolls
  rw [hbegin, hpolls, List.map_append, ← List.append_assoc, hrouting]
  simp only [List.append_assoc]

/-- How the second half of a tick ends. What a read brings is noted first. -/
inductive Ends (run : Run) (tick : OpenTick) (e e' : Engine β) : Prop
  | crashed {rest : List EngineEvent} :
      (∀ event ∈ rest, event.isAside = true) →
      e'.events = e.events ++ rest →
      (∀ run', e'.run = some run' → run' = { run with openTick := none, crashed := true }) →
      Ends run tick e e'
  | completed {outcome : ReadOutcome} {result : TickResult} {deadline : Nat}
      {rest : List EngineEvent} :
      run.sampler.result? tick.snapshot outcome = some result →
      (∀ event ∈ rest, event.isAside = true) →
      e'.events =
        e.events ++ .ticked run.stream (run.sampler.recordOf tick outcome result) :: rest →
      (∀ run', e'.run = some run' → run' = run.completed result deadline) →
      Ends run tick e e'

theorem endTick_ends (e : Engine β) (run : Run) (tick : OpenTick) :
    Ends run tick e (e.endTick run tick).1 := by
  have hleaves : ∀ {run₁ : Run} {e₁ e' : Engine β}, Leaves run₁ e₁ e' → e₁.run = some run₁ →
      ∀ run', e'.run = some run' → run' = run₁ := by
    intro run₁ e₁ e' h hrun₁ run' hrun'
    cases h with
    | goesOn => exact Option.some.inj (hrun'.symm.trans hrun₁)
    | ends _ _ _ => cases hrun'
  cases hresult : run.sampler.result? tick.snapshot (Board.read e.config.readTimeout e.board).2 with
  | none =>
      obtain ⟨_, _, _, -, -, hends⟩ := endTick_of_crash hresult
      obtain ⟨rest, hasides, hnoted⟩ : ∃ rest, (∀ event ∈ rest, event.isAside = true) ∧
          (e.endTick run tick).1.events = e.events ++ rest := by
        simp only [endTick, hresult]
        split
        · refine ⟨[.crashed run.stream tick, .abandoned run.stream run.sampler.pending], ?_, ?_⟩
          · simp [EngineEvent.isAside]
          · simp [endRun, note, events]
        · exact ⟨[.crashed run.stream tick], by simp [EngineEvent.isAside], note_events _ _⟩
      exact .crashed hasides hnoted (hleaves hends rfl)
  | some result =>
      obtain ⟨_, _, _, deadline, _, -, -, -, hends⟩ := endTick_of_result hresult
      rcases hsettle : settle
          { e with
            board := (Board.read e.config.readTimeout e.board).1
            clock := e.clock.advance tick.lag }
          run tick (Board.read e.config.readTimeout e.board).2 result with
        ⟨e₁, run₁, signals⟩
      rcases hpace : e₁.pace run₁ with ⟨e₂, run₂⟩
      obtain ⟨rest₁, hasides₁, hsettled⟩ := settle_events
        { e with
          board := (Board.read e.config.readTimeout e.board).1
          clock := e.clock.advance tick.lag }
        run tick (Board.read e.config.readTimeout e.board).2 result
      obtain ⟨rest₂, hasides₂, hpaced⟩ := e₁.pace_events run₁
      rw [hsettle] at hsettled
      rw [hpace] at hpaced
      simp only at hsettled hpaced
      obtain ⟨rest₃, hasides₃, hback⟩ := e₂.handBack_events run₂
      have hnoted : e₂.events = e.events ++ .ticked run.stream
          (run.sampler.recordOf tick (Board.read e.config.readTimeout e.board).2 result) ::
            (rest₁ ++ rest₂) := by
        rw [hpaced, hsettled, List.append_assoc]
        rfl
      by_cases hawaited : e₂.custody = .awaited
      · refine .completed hresult
          (List.forall_mem_append.mpr ⟨List.forall_mem_append.mpr ⟨hasides₁, hasides₂⟩, hasides₃⟩)
          ?_ (hleaves hends rfl)
        simp only [endTick, hresult, hsettle, hpace, if_pos hawaited]
        rw [hback, hnoted, List.append_assoc]
        rfl
      · refine .completed hresult (List.forall_mem_append.mpr ⟨hasides₁, hasides₂⟩) ?_
          (hleaves hends rfl)
        simp only [endTick, hresult, hsettle, hpace, if_neg hawaited]
        exact hnoted

/-- What arming a board notes. If the bridge cannot be routed, conversions are switched off
again. -/
inductive Arms (b : Bridge) : Except BoardFault Unit → List EngineEvent → Prop
  | unswitched (fault : BoardFault) : Arms b (.error fault) [.measure true false]
  | unrouted (fault : BoardFault) (success : Bool) :
      Arms b (.error fault) [.measure true true, .select b false, .measure false success]
  | armed : Arms b (.ok ()) [.measure true true, .select b true]

theorem Arms.answered {b : Bridge} {result : Except BoardFault Unit} {added : List EngineEvent}
    (h : Arms b result added) : Answered added := by
  cases h with
  | unswitched fault => simp [answered_cons, answered_nil]
  | unrouted fault success => simp [answered_cons, answered_nil, AnswersFailure]
  | armed => simp [answered_cons, answered_nil]

theorem Arms.unticked {b : Bridge} {result : Except BoardFault Unit} {added : List EngineEvent}
    (h : Arms b result added) : ∀ event ∈ added, event.ticked? = none := by
  cases h <;> simp [EngineEvent.ticked?]

theorem arm_events (e : Engine β) : ∃ board log result added,
    e.arm = ({ e with board := board, log := log }, result) ∧
      log.toList = e.events ++ added ∧ Arms e.store.snapshot.bridge result added := by
  unfold arm
  simp only [setMeasuring, selectBridge, note]
  obtain ⟨board₁, on⟩ := Board.setMeasuring true e.board
  cases on with
  | error fault => exact ⟨board₁, _, _, _, rfl, Array.toList_push, .unswitched fault⟩
  | ok u =>
      simp only
      obtain ⟨board₂, routed⟩ := Board.selectBridge e.store.snapshot.bridge board₁
      cases routed with
      | error fault =>
          refine ⟨_, _, _, _, rfl, ?_, .unrouted fault (Board.setMeasuring false board₂).2.isOk⟩
          simp [events, Except.isOk, Except.toBool]
      | ok u =>
          refine ⟨board₂, _, _, _, rfl, ?_, .armed⟩
          simp [events, Except.isOk, Except.toBool]

/-- A start fails before the board is armed, or after that, or starts a stream. -/
theorem start_events (e : Engine β) :
    (∃ e' outcome, e.start = (e', outcome) ∧ e'.run = e.run ∧ e'.events = e.events) ∨
    (∃ e' outcome result added, e.start = (e', outcome) ∧ e.custody = .parked ∧ e'.run = e.run ∧
      Arms e.store.snapshot.bridge result added ∧ e'.events = e.events ++ added) ∨
    ∃ board log, e.start = (e.started board log, .done) ∧
      log.toList = e.events ++ [.measure true true, .select e.store.snapshot.bridge true] := by
  obtain ⟨board, log, result, added, harm', hlog, harms⟩ := arm_events e.attempted.retimed
  have hends := e.start_ends
  generalize e.start = ending at hends ⊢
  cases hends with
  | denied _ => exact .inl ⟨_, _, rfl, rfl, rfl⟩
  | unwaitable _ => exact .inl ⟨_, _, rfl, rfl, rfl⟩
  | obstructed _ _ => exact .inl ⟨_, _, rfl, rfl, rfl⟩
  | unarmed _ hparked harm =>
      cases harm.symm.trans harm'
      exact .inr (.inl ⟨_, _, _, _, rfl, hparked, rfl, harms, hlog⟩)
  | brokenOff _ hparked harm =>
      cases harm.symm.trans harm'
      exact .inr (.inl ⟨_, _, _, _, rfl, hparked, rfl, harms, hlog⟩)
  | launched _ _ harm =>
      cases harm.symm.trans harm'
      cases harms
      exact .inr (.inr ⟨board, log, rfl, hlog⟩)

/-- A stop notes no attempt to route the bridge, and no tick. -/
theorem stop_events (e : Engine β) : ∃ rest, (∀ event ∈ rest, event.isAside = true) ∧
    e.stop.1.events = e.events ++ rest ∧
      ∀ run', e.stop.1.run = some run' → e.run = some run' := by
  have hsame : ∃ rest, (∀ event ∈ rest, event.isAside = true) ∧ e.events = e.events ++ rest :=
    ⟨[], by simp, (List.append_nil _).symm⟩
  unfold stop
  split
  · next run _ hrun =>
      simp only
      split
      · refine ⟨_, ?_, endRun_events e run .lost, by simp [endRun, note]⟩
        simp [EngineEvent.isAside]
      split
      · obtain ⟨rest, hasides, hrest⟩ := hsame
        exact ⟨rest, hasides, hrest, fun _ h => h⟩
      · obtain ⟨rest, hasides, hback⟩ := e.handBack_events run
        exact ⟨rest, hasides, hback, by simp [handBack, endRun, note]⟩
  · obtain ⟨rest, hasides, hrest⟩ := hsame
    exact ⟨rest, hasides, hrest, fun _ h => h⟩

end Board

/-! ### The invariant -/

/-- While a stream has the board, the latest attempt to route it was for the bridge whose epoch
the sampler has seen, and if it failed, the guard covers what is left of the settling time. So
many commits have selected a bridge since then. -/
structure Steered (e : Engine β) (pending : Nat) : Prop where
  plan : ∀ run, e.run = some run → run.sampler.plan.settlingTicks = e.config.settlingTicks
  live : ∀ run, e.run = some run → ∃ b,
    Attempted run.stream (e.config.settlingTicks - run.sampler.discardLeft) b e.events ∧
    (pending = 0 → b = e.store.snapshot.bridge) ∧
    e.store.snapshot.bridgeEpoch.toNat = (run.sampler.epoch.toNat + pending) % 2 ^ 64 ∧
    ∀ tick, run.openTick = some tick → tick.snapshot.bridge = b
  rows : RowsAttempted e.config.settlingTicks e.events

namespace Steered

variable {e e' : Engine β} {pending : Nat}

/-- Without a stream only the rows of earlier ones count. -/
theorem of_idle (h : e.Steered pending) (hconfig : e'.config = e.config) (hnone : e'.run = none)
    {added : List EngineEvent} (hevents : e'.events = e.events ++ added)
    (hadded : ∀ event ∈ added, event.ticked? = none) (pending' : Nat) : e'.Steered pending' where
  plan run hrun := absurd (hnone.symm.trans hrun) (by simp)
  live run hrun := absurd (hnone.symm.trans hrun) (by simp)
  rows := by
    rw [hconfig, hevents]
    exact h.rows.append_unticked hadded

/-- What is noted aside leaves a stream steered. -/
theorem of_asides (h : e.Steered pending) (hconfig : e'.config = e.config)
    (hrun : ∀ run', e'.run = some run' → e.run = some run')
    (hsnapshot : e'.store.snapshot = e.store.snapshot) {rest : List EngineEvent}
    (hevents : e'.events = e.events ++ rest) (hasides : ∀ event ∈ rest, event.isAside = true) :
    e'.Steered pending where
  plan run' hrun' := by
    rw [hconfig]
    exact h.plan run' (hrun run' hrun')
  live run' hrun' := by
    obtain ⟨b, hattempted, hlive⟩ := h.live run' (hrun run' hrun')
    rw [hconfig, hevents, hsnapshot]
    exact ⟨b, hattempted.append_asides hasides, hlive⟩
  rows := by
    rw [hconfig, hevents]
    exact h.rows.append_unticked fun event hevent =>
      EngineEvent.ticked?_of_isAside (hasides event hevent)

theorem of_same (h : e.Steered pending) (hconfig : e'.config = e.config) (hrun : e'.run = e.run)
    (hsnapshot : e'.store.snapshot = e.store.snapshot) (hevents : e'.events = e.events) :
    e'.Steered pending :=
  h.of_asides hconfig (fun _ hrun' => hrun.symm.trans hrun') hsnapshot
    (hevents.trans (List.append_nil _).symm) (by simp)

/-- A commit that selects a bridge is one more that the sampler has not seen. -/
theorem wrote {command : Settings.Command} {store : Settings.Store} (h : e.Steered pending)
    (hwrote : command.run e.store = .ok store) :
    Steered { e with store := store } (pending + (command.selected? e.store).toList.length) where
  plan := h.plan
  live run hrun := by
    obtain ⟨b, hattempted, hbridge, hepoch, hopen⟩ := h.live run hrun
    obtain ⟨hbridge', hepoch'⟩ := Settings.Command.run_ahead hwrote hbridge hepoch
    exact ⟨b, hattempted, hbridge', hepoch', hopen⟩
  rows := h.rows

theorem started (h : e.Steered pending) {board : β} {log : Array EngineEvent}
    (hlog : log.toList =
      e.events ++ [.measure true true, .select e.store.snapshot.bridge true]) :
    (e.started board log).Steered 0 where
  plan run hrun := by
    obtain rfl : e.newRun = run := Option.some.inj hrun
    rfl
  live run hrun := by
    obtain rfl : e.newRun = run := Option.some.inj hrun
    refine ⟨e.store.snapshot.bridge, ?_, fun _ => rfl, ?_, by simp [newRun]⟩
    · have harmed : log.toList = (e.events ++ [.measure true true]) ++
          .select e.store.snapshot.bridge true :: [] :=
        hlog.trans (by rw [List.append_assoc]; rfl)
      exact .succeeded harmed (by simp)
    · exact (Nat.mod_eq_of_lt (UInt64.toNat_lt _)).symm
  rows := by
    have hevents : (e.started board log).events = _ := hlog
    rw [hevents]
    exact h.rows.append_unticked (by simp [EngineEvent.ticked?])

end Steered

section Board

variable [Board β]

theorem endTick_config (e : Engine β) (run : Run) (tick : OpenTick) :
    (e.endTick run tick).1.config = e.config := by
  cases hresult : run.sampler.result? tick.snapshot (Board.read e.config.readTimeout e.board).2 with
  | none =>
      obtain ⟨_, _, _, -, -, hends⟩ := endTick_of_crash hresult
      generalize (e.endTick run tick).1 = e' at hends ⊢
      cases hends <;> rfl
  | some result =>
      obtain ⟨_, _, _, _, _, -, -, -, hends⟩ := endTick_of_result hresult
      generalize (e.endTick run tick).1 = e' at hends ⊢
      cases hends <;> rfl

namespace Steered

variable {e : Engine β} {pending : Nat} {run : Run}

/-- The first half of a tick routes the bridge of its snapshot if the sampler has not seen its
epoch, and raises the guard for it. -/
theorem beginTick (h : e.Steered pending) (hpending : pending < 2 ^ 64)
    (hrun : e.run = some run) (lag : Duration) : (e.beginTick run lag).1.Steered 0 := by
  obtain ⟨b, hattempted, hbridge, hepoch, -⟩ := h.live run hrun
  obtain ⟨routing, rest, hroutes, hasides, hevents⟩ := e.beginTick_events run lag
  obtain ⟨board, button, polled, log, signals, heq, -⟩ := e.beginTick_eq run lag
  rw [heq] at hevents ⊢
  have hunselected : ∀ event ∈ rest, event.isSelect = false :=
    fun event hevent => EngineEvent.isSelect_of_isAside (hasides event hevent)
  have hunticked : ∀ event ∈ rest, event.ticked? = none :=
    fun event hevent => EngineEvent.ticked?_of_isAside (hasides event hevent)
  have hplan := h.plan run hrun
  have hobserve : run.sampler.observe e.store.snapshot.bridgeEpoch =
      run.sampler.seeing e.store.snapshot := rfl
  refine ⟨?_, ?_, ?_⟩
  · intro run' hrun'
    obtain rfl := Option.some.inj hrun'
    rw [hobserve, Sampler.seeing_eq]
    exact hplan
  · intro run' hrun'
    obtain rfl := Option.some.inj hrun'
    refine ⟨e.store.snapshot.bridge, ?_, fun _ => rfl, ?_, ?_⟩
    · rw [hevents, hobserve, Sampler.seeing_eq]
      cases hroutes with
      | seen hsame =>
          -- The bridge is the one of the attempt before: no selection hides behind its epoch.
          rw [hsame] at hepoch
          rw [← hbridge (Settings.eq_zero_of_ahead hpending hepoch), if_neg (by simp [hsame])]
          exact hattempted.append_asides hasides
      | succeeded hnew => exact .succeeded rfl hunselected
      | failed message hnew =>
          refine .failed message rfl hunselected ?_
          simp only [if_pos hnew, hplan]
          omega
    · simp only [Sampler.observe_epoch, Nat.add_zero]
      exact (Nat.mod_eq_of_lt (UInt64.toNat_lt _)).symm
    · rintro tick htick
      cases htick
      rfl
  · rw [hevents]
    refine h.rows.append_unticked (List.forall_mem_append.mpr ⟨?_, hunticked⟩)
    cases hroutes <;> simp [EngineEvent.ticked?]

/-- The second half of a tick brings a row only if the guard is down, and takes the stream one
tick further away from the attempt. -/
theorem endTick (h : e.Steered pending) (hrun : e.run = some run) {tick : OpenTick}
    (hopen : run.openTick = some tick) : (e.endTick run tick).1.Steered pending := by
  obtain ⟨b, hattempted, hbridge, hepoch, htick⟩ := h.live run hrun
  have hconfig := e.endTick_config run tick
  have hstore := (e.endTick_keeps run tick).store
  have hplan := h.plan run hrun
  cases e.endTick_ends run tick with
  | crashed hasides hevents hrun' =>
      refine ⟨?_, ?_, ?_⟩
      · intro run' heq
        obtain rfl := hrun' run' heq
        rw [hconfig]
        exact hplan
      · intro run' heq
        obtain rfl := hrun' run' heq
        rw [hconfig, hevents, hstore]
        exact ⟨b, hattempted.append_asides hasides, hbridge, hepoch, by simp⟩
      · rw [hconfig, hevents]
        exact h.rows.append_unticked fun event hevent =>
          EngineEvent.ticked?_of_isAside (hasides event hevent)
  | @completed outcome result deadline rest hresult hasides hevents hrun' =>
      have hunselected : ∀ event ∈ EngineEvent.ticked run.stream
          (run.sampler.recordOf tick outcome result) :: rest, event.isSelect = false :=
        List.forall_mem_cons.mpr
          ⟨rfl, fun event hevent => EngineEvent.isSelect_of_isAside (hasides event hevent)⟩
      refine ⟨?_, ?_, ?_⟩
      · intro run' heq
        obtain rfl := hrun' run' heq
        rw [hconfig, Run.completed, Sampler.advance_eq]
        exact hplan
      · intro run' heq
        obtain rfl := hrun' run' heq
        rw [hconfig, hevents, hstore]
        refine ⟨b, (hattempted.append hunselected).mono ?_, hbridge, ?_, by simp [Run.completed]⟩
        · rw [Run.completed, Sampler.advance_eq, List.countP_cons_of_pos (by
            simp [EngineEvent.isTickOf])]
          simp only
          omega
        · rw [Run.completed, Sampler.advance_epoch]
          exact hepoch
      · rw [hconfig, hevents]
        refine h.rows.append ?_
        intro before k r after heq hrow
        cases before with
        | nil =>
            obtain ⟨hhead, -⟩ := List.cons.inj heq
            cases hhead
            have hdown : run.sampler.discardLeft = 0 :=
              Sampler.discardLeft_of_isRow hresult hrow
            rw [List.append_nil]
            rw [hdown, Nat.sub_zero] at hattempted
            rw [show (run.sampler.recordOf tick outcome result).snapshot.bridge = b from
              htick tick hopen]
            exact hattempted
        | cons event before =>
            -- The tick is noted first, and once.
            obtain ⟨-, rfl⟩ := List.cons.inj heq
            have hticked := EngineEvent.ticked?_of_isAside
              (hasides (.ticked k r) (List.mem_append_right _ List.mem_cons_self))
            cases hticked

end Steered

end Board

end Engine

end QuadDaq

import QuadDaq.Proofs.Button
import QuadDaq.Proofs.Stream.Change

/-!
# What ticks publish besides batches

**A tick publishes three kinds of signals.** Its first half reports a failure to route the
bridge, and publishes the transition that the button made (`beginTick_signals`). Its second
half reports what the read brought, and publishes a batch (`endTick_signals`). Here the
reports and the transitions are tied to the calls on the board, the debouncing and the
counters that they come from.
-/

namespace QuadDaq

/-- The transition that a signal is. -/
def Signal.transition? : Signal → Option Transition
  | .transition t => some t
  | .batch _ | .error .. => none

/-- One occurrence of an error: its code and what there is to say. -/
abbrev Occurrence := ErrorCode × String

/-- The report that a signal is. -/
def Signal.report? : Signal → Option Occurrence
  | .error code message => some (code, message)
  | .batch _ | .transition _ => none

/-- The board did not route the bridge. -/
def EngineEvent.isFailedSelect : EngineEvent → Bool
  | .select _ success => !success
  | .measure .. | .reading .. | .ticked .. | .crashed .. | .published .. | .abandoned .. |
    .slept .. => false

namespace Engine

variable {β : Type}

/-- How often the board did not route the bridge. -/
def failedSelects (e : Engine β) : Nat := e.log.toList.countP EngineEvent.isFailedSelect

/-- The number of accepted changes of the button. -/
def presses (e : Engine β) : Nat := (e.button.map Debouncer.counter).getD 0

/-- The accepted level of the button. -/
def isPressed (e : Engine β) : Bool := (e.button.map Debouncer.pressed).getD false

theorem note_failedSelects (e : Engine β) (event : EngineEvent) :
    (e.note event).failedSelects =
      e.failedSelects + if event.isFailedSelect then 1 else 0 := by
  rw [failedSelects, note, Array.toList_push, List.countP_append, List.countP_singleton,
    ← failedSelects]

theorem emit_failedSelects (k : Nat) (signals : List Signal) :
    ∀ e : Engine β, (e.emit k signals).failedSelects = e.failedSelects := by
  induction signals with
  | nil => exact fun e => rfl
  | cons s rest ih =>
      intro e
      rw [show e.emit k (s :: rest) = (e.note (.published k s)).emit k rest from rfl, ih,
        note_failedSelects]
      rfl

/-- Emitting signals is no matter of the button or the counters. -/
theorem emit_fields (k : Nat) (signals : List Signal) (e : Engine β) :
    (e.emit k signals).button = e.button ∧ (e.emit k signals).counters = e.counters := by
  obtain ⟨log, heq, -⟩ := emit_eq k signals e
  rw [heq]
  exact ⟨rfl, rfl⟩

/-- The accepted level and the number of changes, and the transition that came of a poll. -/
inductive Polled (e : Engine β) : Option Transition → Engine β → Prop
  | same {e' : Engine β} :
      e'.isPressed = e.isPressed →
      e'.presses = e.presses →
      Polled e none e'
  | changed {e' : Engine β} :
      e'.isPressed = (!e.isPressed) →
      e'.presses = e.presses + 1 →
      Polled e (some ⟨!e.isPressed, e.presses + 1⟩) e'

/-- The failed calls to route the bridge, and the reports that came of them. -/
inductive Rerouted (e : Engine β) : List Signal → Engine β → Prop
  | silent {e' : Engine β} :
      e'.failedSelects = e.failedSelects →
      Rerouted e [] e'
  | failed {e' : Engine β} (message : String) :
      e'.failedSelects = e.failedSelects + 1 →
      Rerouted e [.error .acquisitionFault message] e'

theorem Rerouted.of_eq {e e₁ e' : Engine β} {signals : List Signal} (h : Rerouted e signals e₁)
    (heq : e'.failedSelects = e₁.failedSelects) : Rerouted e signals e' := by
  cases h with
  | silent hselects => exact .silent (heq.trans hselects)
  | failed message hselects => exact .failed message (heq.trans hselects)

theorem Polled.of_button {e e₁ e₂ e' : Engine β} {t? : Option Transition} (h : Polled e₁ t? e₂)
    (hfirst : e₁.button = e.button) (hthen : e'.button = e₂.button) : Polled e t? e' := by
  have hpressed : e₁.isPressed = e.isPressed := by rw [isPressed, hfirst, ← isPressed]
  have hpresses : e₁.presses = e.presses := by rw [presses, hfirst, ← presses]
  have hpressed' : e'.isPressed = e₂.isPressed := by rw [isPressed, hthen, ← isPressed]
  have hpresses' : e'.presses = e₂.presses := by rw [presses, hthen, ← presses]
  cases h with
  | same hlevel hcounter =>
      exact .same (hpressed'.trans (hlevel.trans hpressed))
        (hpresses'.trans (hcounter.trans hpresses))
  | changed hlevel hcounter =>
      rw [hpressed, hpresses]
      exact .changed (hpressed'.trans (hlevel.trans (congrArg _ hpressed)))
        (hpresses'.trans (hcounter.trans (congrArg (· + 1) hpresses)))

theorem endRun_failedSelects (e : Engine β) (run : Run) (custody : Custody) :
    (e.endRun run custody).failedSelects = e.failedSelects :=
  note_failedSelects _ _

theorem settle_failedSelects (e : Engine β) (run : Run) (tick : OpenTick) (outcome : ReadOutcome)
    (result : TickResult) :
    (e.settle run tick outcome result).1.failedSelects = e.failedSelects := by
  simp only [settle]
  rw [emit_failedSelects]
  exact note_failedSelects _ _

theorem pace_failedSelects (e : Engine β) (run : Run) :
    (e.pace run).1.failedSelects = e.failedSelects := by
  unfold pace
  obtain ⟨deadline, late⟩ := Pace.nextDeadline run.deadline e.clock.elapsed run.period
  cases late with
  | true => rfl
  | false => exact note_failedSelects _ _

section Board

variable [Board β]

/-! ### The first half of a tick -/

/-- A failure to route the bridge is reported. -/
theorem route_rerouted (e : Engine β) (run : Run) (snapshot : Settings.Snapshot) :
    Rerouted e (e.route run snapshot).2.2 (e.route run snapshot).1 ∧
      (e.route run snapshot).1.button = e.button ∧
      (e.route run snapshot).1.counters = e.counters := by
  unfold route
  by_cases hneeded : run.sampler.needsRouting snapshot.bridgeEpoch
  · simp only [hneeded, if_true, selectBridge]
    obtain ⟨board, result⟩ := Board.selectBridge snapshot.bridge e.board
    cases result with
    | ok u =>
        refine ⟨.silent ?_, rfl, rfl⟩
        rw [note_failedSelects]
        rfl
    | error fault =>
        refine ⟨.failed _ ?_, rfl, rfl⟩
        rw [note_failedSelects]
        rfl
  · rw [if_neg hneeded]
    exact ⟨.silent rfl, rfl, rfl⟩

/-- A change of the button that a poll accepts is published. -/
theorem pollButton_polled (e : Engine β) (run : Run) :
    ∃ t?, (e.pollButton run).2.2 = (t?.map Signal.transition).toList ∧
      Polled e t? (e.pollButton run).1 ∧ (e.pollButton run).1.failedSelects = e.failedSelects ∧
      (e.pollButton run).1.counters = e.counters := by
  unfold pollButton
  cases hbutton : e.button with
  | none => exact ⟨none, rfl, .same rfl rfl, rfl, rfl⟩
  | some b =>
      by_cases hpolls : run.sampler.pollsButton
      · simp only [hpolls, if_true]
        obtain ⟨board, level⟩ := Board.level e.board
        simp only
        have hpressed : e.isPressed = b.pressed := by simp [isPressed, hbutton]
        have hpresses : e.presses = b.counter := by simp [presses, hbutton]
        refine ⟨(b.poll level).2, rfl, ?_, rfl, trivial⟩
        rcases b.poll_cases level with ⟨hnone, hlevel, hcounter⟩ | ⟨hsome, hlevel, hcounter⟩
        · rw [hnone]
          refine .same ?_ ?_
          · simp [isPressed, hbutton, hlevel]
          · simp [presses, hbutton, hcounter]
        · rw [hsome, ← hpressed, ← hpresses]
          refine .changed ?_ ?_
          · simp [isPressed, hbutton, hlevel]
          · simp [presses, hbutton, hcounter]
      · simp only [if_neg hpolls]
        exact ⟨none, rfl, .same rfl rfl, trivial, trivial⟩

/-- The first half of a tick publishes the report of the routing and the transition of the
button. -/
theorem beginTick_signals (e : Engine β) (run : Run) (lag : Duration) :
    ∃ routing t?, (e.beginTick run lag).2 = routing ++ (t?.map Signal.transition).toList ∧
      Rerouted e routing (e.beginTick run lag).1 ∧ Polled e t? (e.beginTick run lag).1 ∧
      (e.beginTick run lag).1.counters = e.counters := by
  have hroute := route_rerouted e run e.store.snapshot
  rcases hroutes : e.route run e.store.snapshot with ⟨e₁, run₁, routing⟩
  rw [hroutes] at hroute
  obtain ⟨hrouted, hbutton, hcounters⟩ := hroute
  have hpoll := pollButton_polled e₁ run₁
  rcases hpolls : e₁.pollButton run₁ with ⟨e₂, polled, polling⟩
  rw [hpolls] at hpoll
  obtain ⟨t?, hsignals, hpolled, hselects, hcounters'⟩ := hpoll
  simp only at hsignals hrouted hbutton hcounters hpolled hselects hcounters'
  have hbegin : (e.beginTick run lag).2 = routing ++ polling := by
    simp only [beginTick, hroutes, hpolls]
  have hengine : (e.beginTick run lag).1 = (({ e₂ with
      run := some { run₁ with openTick := some ⟨e.store.snapshot, polled, lag⟩ } } :
        Engine β).emit run₁.stream (routing ++ polling)).note (.reading e₂.config.readTimeout) := by
    simp only [beginTick, hroutes, hpolls]
  obtain ⟨hbutton', hemitted⟩ := emit_fields run₁.stream (routing ++ polling) ({ e₂ with
    run := some { run₁ with openTick := some ⟨e.store.snapshot, polled, lag⟩ } } : Engine β)
  refine ⟨routing, t?, hbegin.trans (congrArg (routing ++ ·) hsignals), ?_, ?_, ?_⟩
  · refine hrouted.of_eq ?_
    rw [hengine, note_failedSelects, emit_failedSelects]
    exact hselects
  · refine hpolled.of_button hbutton ?_
    rw [hengine]
    exact hbutton'
  · rw [hengine]
    exact hemitted.trans (hcounters'.trans hcounters)

/-! ### The second half of a tick -/

theorem handBack_failedSelects (e : Engine β) (run : Run) :
    (e.handBack run).failedSelects = e.failedSelects := by
  rw [handBack, endRun_failedSelects, setMeasuring]
  exact note_failedSelects _ _

/-- The second half of a tick routes no bridge and polls no button. It publishes the signals of
what the read brought, which is counted, unless the read took the stream down. -/
theorem endTick_signals (e : Engine β) (run : Run) (tick : OpenTick) :
    (e.endTick run tick).1.failedSelects = e.failedSelects ∧
      (e.endTick run tick).1.button = e.button ∧
      (((e.endTick run tick).2 = [] ∧ (e.endTick run tick).1.counters = e.counters) ∨
      ∃ result late, (e.endTick run tick).2 = run.sampler.signalsOf result ∧
        (e.endTick run tick).1.counters = e.counters.settled result late) := by
  have hleaves : ∀ {run₁ : Run} {e₁ e' : Engine β}, Leaves run₁ e₁ e' →
      e'.button = e₁.button ∧ e'.counters = e₁.counters := by
    intro run₁ e₁ e' h
    cases h <;> exact ⟨rfl, rfl⟩
  refine ⟨?_, ?_⟩
  · cases hresult : run.sampler.result? tick.snapshot (Board.read e.config.readTimeout e.board).2 with
    | none =>
        simp only [endTick, hresult]
        split
        · rw [endRun_failedSelects]
          exact note_failedSelects _ _
        · exact note_failedSelects _ _
    | some result =>
        simp only [endTick, hresult]
        split
        · rw [handBack_failedSelects, pace_failedSelects, settle_failedSelects]
          rfl
        · refine Eq.trans (pace_failedSelects _ _) (settle_failedSelects _ _ _ _ _)
  · cases hresult : run.sampler.result? tick.snapshot (Board.read e.config.readTimeout e.board).2 with
    | none =>
        obtain ⟨board, clock, log, -, hsignals, hends⟩ := endTick_of_crash hresult
        obtain ⟨hbutton, hcounters⟩ := hleaves hends
        exact ⟨hbutton, .inl ⟨hsignals, hcounters⟩⟩
    | some result =>
        obtain ⟨board, clock, late, deadline, log, -, -, hsignals, hends⟩ := endTick_of_result hresult
        obtain ⟨hbutton, hcounters⟩ := hleaves hends
        exact ⟨hbutton, .inr ⟨result, late, hsignals, hcounters⟩⟩

end Board

end Engine

end QuadDaq

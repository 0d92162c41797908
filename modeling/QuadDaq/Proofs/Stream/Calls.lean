import QuadDaq.Board.Scripted
import QuadDaq.Board.Simulated
import QuadDaq.Proofs.Settings.Selection
import QuadDaq.Proofs.Stream.Guard
import QuadDaq.Proofs.Stream.History

/-!
# What a board is asked for

**The calls that an engine makes on its board**, in order. The course of the streams leaves
them out; here they are all that counts. Each function of the engine has one statement on
what it asks for: `beginTick_calls`, `endTick_winds`, `start_calls`, `stop_winds`.

* `streamCalls` are the calls of a stream as the snapshots of its ticks determine them.
* `readings` are the states in which a board is read, as far as calls can tell.
* `Engine.Routed` is the invariant that the bridge selected last is the one that the sampler
  took notice of last. It counts the selections in the store since then, because `2 ^ 64` of
  them would go unnoticed.
-/

namespace QuadDaq

/-- What a board is asked for. -/
inductive BoardCall
  | measure (on : Bool)
  | select (bridge : Bridge)
  | read
  deriving Repr, DecidableEq

/-- The call that an event is, successful or not. -/
def EngineEvent.call? : EngineEvent → Option BoardCall
  | .measure on _ => some (.measure on)
  | .select bridge _ => some (.select bridge)
  | .reading _ => some .read
  | _ => none

/-- The calls in a log. -/
def callsOf (log : Array EngineEvent) : List BoardCall := log.toList.filterMap EngineEvent.call?

@[simp] theorem callsOf_push (log : Array EngineEvent) (event : EngineEvent) :
    callsOf (log.push event) = callsOf log ++ event.call?.toList := by
  rw [callsOf, Array.toList_push, List.filterMap_append]
  cases h : event.call? <;> simp [callsOf, h]

/-- All calls that an engine has made on its board. -/
def Engine.calls {β : Type} (e : Engine β) : List BoardCall := callsOf e.log

/-- A board that can always be switched and routed. -/
class Board.Obliging (β : Type) [Board β] : Prop where
  setMeasuring_ok (on : Bool) (board : β) : (Board.setMeasuring on board).2 = .ok ()
  selectBridge_ok (bridge : Bridge) (board : β) : (Board.selectBridge bridge board).2 = .ok ()

instance : Board.Obliging Board.Scripted := ⟨fun _ _ => rfl, fun _ _ => rfl⟩

instance : Board.Obliging Board.Simulated := ⟨fun _ _ => rfl, fun _ _ => rfl⟩

/-- A board whose reads return, in a row or a fault. -/
def Board.ReadsReturn (β : Type) [Board β] : Prop :=
  ∀ (timeout : Duration) (board : β), (Board.read timeout board).2 ≠ .crash

theorem Board.Scripted.readsReturn : ReadsReturn Scripted := by
  intro timeout board
  simp only [Board.read, Scripted.read]
  split
  · simp
  · simp
  · split <;> simp

theorem Board.Simulated.readsReturn : ReadsReturn Simulated := by
  intro timeout board
  simp only [Board.read]
  split <;> simp

/-! ### The calls of a stream -/

/-- The calls of ticks that see these snapshots, when the epoch seen last before them is
given: a new epoch has its bridge selected before the read. -/
def tickCalls (epoch : UInt64) : List Settings.Snapshot → List BoardCall
  | [] => []
  | s :: rest =>
    (if s.bridgeEpoch = epoch then [] else [.select s.bridge]) ++
      .read :: tickCalls s.bridgeEpoch rest

/-- The calls of a stream that was started on a snapshot and whose ticks saw these. -/
def streamCalls (start : Settings.Snapshot) (seen : List Settings.Snapshot) : List BoardCall :=
  .measure true :: .select start.bridge :: tickCalls start.bridgeEpoch seen

theorem tickCalls_concat (epoch : UInt64) (seen : List Settings.Snapshot)
    (s : Settings.Snapshot) :
    tickCalls epoch (seen ++ [s]) =
      tickCalls epoch seen ++ tickCalls (lastSeen epoch (seen.map (·.bridgeEpoch))) [s] := by
  induction seen generalizing epoch with
  | nil => rfl
  | cons x rest ih =>
      rw [List.cons_append, tickCalls, ih, List.map_cons, lastSeen_cons]
      simp only [tickCalls, List.append_assoc, List.cons_append]

/-- Ticks that all see the epoch of the start only read. -/
theorem tickCalls_of_unseen {epoch : UInt64} {seen : List Settings.Snapshot}
    (h : ∀ s ∈ seen, s.bridgeEpoch = epoch) :
    tickCalls epoch seen = List.replicate seen.length .read := by
  induction seen with
  | nil => rfl
  | cons s rest ih =>
      obtain ⟨hs, hrest⟩ := List.forall_mem_cons.mp h
      rw [tickCalls, if_pos hs, hs, ih hrest]
      rfl

/-! ### Readings -/

/-- How a board stands as far as calls can tell. -/
structure Standing where
  measuring : Bool := false
  /-- The bridge selected last. -/
  bridge? : Option Bridge := none
  deriving Repr, DecidableEq

/-- What a call makes of it. -/
def Standing.after (s : Standing) : BoardCall → Standing
  | .measure on => { s with measuring := on }
  | .select bridge => { s with bridge? := some bridge }
  | .read => s

/-- How a board stands after these calls. -/
def standing (calls : List BoardCall) : Standing := calls.foldl Standing.after {}

/-- How a board stands at each read among calls. -/
def readingsFrom (s : Standing) : List BoardCall → List Standing
  | [] => []
  | .read :: rest => s :: readingsFrom s rest
  | call :: rest => readingsFrom (s.after call) rest

/-- How a new board stands at each read among calls. -/
def readings (calls : List BoardCall) : List Standing := readingsFrom {} calls

theorem standing_append (calls more : List BoardCall) :
    standing (calls ++ more) = more.foldl Standing.after (standing calls) :=
  List.foldl_append

theorem readings_append (calls more : List BoardCall) :
    readings (calls ++ more) = readings calls ++ readingsFrom (standing calls) more := by
  suffices h : ∀ s, readingsFrom s (calls ++ more) =
      readingsFrom s calls ++ readingsFrom (calls.foldl Standing.after s) more from h {}
  induction calls with
  | nil => exact fun s => rfl
  | cons call rest ih =>
      intro s
      cases call with
      | read => exact congrArg (s :: ·) (ih s)
      | measure on => exact ih _
      | select bridge => exact ih _

theorem readingsFrom_replicate (s : Standing) (n : Nat) (calls : List BoardCall) :
    readingsFrom s (List.replicate n .read ++ calls) =
      List.replicate n s ++ readingsFrom s calls := by
  induction n with
  | zero => rfl
  | succ n ih => exact congrArg (s :: ·) ih

/-- A tick reads the board on its own bridge, if an epoch that it does not notice is that of
the bridge selected before. -/
theorem readings_tick {s : Settings.Snapshot} {epoch : UInt64} {b : Bridge}
    (h : s.bridgeEpoch = epoch → b = s.bridge) :
    readingsFrom ⟨true, some b⟩ (tickCalls epoch [s]) = [⟨true, some s.bridge⟩] ∧
      (tickCalls epoch [s]).foldl Standing.after ⟨true, some b⟩ = ⟨true, some s.bridge⟩ := by
  by_cases hsame : s.bridgeEpoch = epoch
  · rw [h hsame, tickCalls, if_pos hsame]
    exact ⟨rfl, rfl⟩
  · rw [tickCalls, if_neg hsame]
    exact ⟨rfl, rfl⟩

/-- A sampler has seen the epoch of which it takes notice. -/
theorem Sampler.observe_epoch (s : Sampler) (epoch : UInt64) : (s.observe epoch).epoch = epoch := by
  unfold observe needsRouting
  split
  · rfl
  · next hsame => simpa using hsame

/-- The end of a tick leaves the epoch that its beginning took notice of. -/
theorem Sampler.advance_epoch (s : Sampler) (result : TickResult) :
    (s.advance result).1.epoch = s.epoch := by
  rw [advance_eq]

namespace Engine

variable {β : Type}

/-! ### What the functions of an engine ask for -/

theorem note_calls (e : Engine β) (event : EngineEvent) :
    (e.note event).calls = e.calls ++ event.call?.toList := callsOf_push _ _

theorem emit_calls (k : Nat) (signals : List Signal) :
    ∀ e : Engine β, (e.emit k signals).calls = e.calls := by
  induction signals with
  | nil => exact fun e => rfl
  | cons s rest ih =>
      intro e
      refine (ih (e.note (.published k s))).trans ?_
      rw [note_calls]
      exact List.append_nil _

theorem settle_calls (e : Engine β) (run : Run) (tick : OpenTick) (outcome : ReadOutcome)
    (result : TickResult) : (e.settle run tick outcome result).1.calls = e.calls :=
  (emit_calls _ _ _).trans ((note_calls _ _).trans (List.append_nil _))

theorem pace_calls (e : Engine β) (run : Run) : (e.pace run).1.calls = e.calls := by
  unfold pace
  obtain ⟨deadline, late⟩ := Pace.nextDeadline run.deadline e.clock.elapsed run.period
  cases late with
  | true => rfl
  | false => exact (note_calls _ _).trans (List.append_nil _)

/-- Completing a tick asks for nothing, and leaves its run with its stream and its epoch. -/
theorem settle_pace (e : Engine β) (run : Run) (tick : OpenTick) (outcome : ReadOutcome)
    (result : TickResult) {e₁ e₂ : Engine β} {run₁ run₂ : Run} {signals : List Signal}
    (hsettle : e.settle run tick outcome result = (e₁, run₁, signals))
    (hpace : e₁.pace run₁ = (e₂, run₂)) :
    e₂.calls = e.calls ∧ e₂.custody = e.custody ∧ run₂.stream = run.stream ∧
      run₂.sampler.epoch = run.sampler.epoch ∧ run₂.crashed = run.crashed := by
  have hcalls₁ := settle_calls e run tick outcome result
  have hcalls₂ := pace_calls e₁ run₁
  obtain ⟨log₁, heq₁, -⟩ := settle_eq e run tick outcome result
  obtain ⟨clock, late, deadline, log₂, heq₂, -, -⟩ := pace_eq e₁ run₁
  rw [hsettle] at hcalls₁ heq₁
  rw [hpace] at hcalls₂ heq₂
  cases heq₁
  cases heq₂
  exact ⟨hcalls₂.trans hcalls₁, rfl, rfl, run.sampler.advance_epoch result, rfl⟩

section Board

variable [Board β]

theorem route_calls (e : Engine β) (run : Run) (snapshot : Settings.Snapshot) :
    (e.route run snapshot).1.calls = e.calls ++
      if snapshot.bridgeEpoch = run.sampler.epoch then [] else [.select snapshot.bridge] := by
  unfold route
  by_cases hsame : snapshot.bridgeEpoch = run.sampler.epoch
  · rw [if_neg (by simp [Sampler.needsRouting, hsame]), if_pos hsame, List.append_nil]
  · rw [if_pos (by simp [Sampler.needsRouting, Ne.symm hsame]), if_neg hsame]
    simp only [selectBridge]
    cases Board.selectBridge snapshot.bridge e.board with
    | mk board result => cases result <;> exact note_calls _ _

theorem pollButton_calls (e : Engine β) (run : Run) : (e.pollButton run).1.calls = e.calls := by
  unfold pollButton
  split
  · rfl
  · split <;> rfl

/-- The first half of a tick asks for what its snapshot says. -/
theorem beginTick_calls (e : Engine β) (run : Run) (lag : Duration) :
    (e.beginTick run lag).1.calls =
      e.calls ++ tickCalls run.sampler.epoch [e.store.snapshot] := by
  have hbegins : (e.beginTick run lag).1.calls =
      (pollButton (e.route run e.store.snapshot).1 (e.route run e.store.snapshot).2.1).1.calls ++
        [.read] := by
    unfold beginTick
    rw [note_calls, emit_calls]
    rfl
  rw [hbegins, pollButton_calls, route_calls, List.append_assoc]
  rfl

theorem handBack_calls (e : Engine β) (run : Run) :
    (e.handBack run).calls = e.calls ++ [.measure false] := by
  simp [calls, handBack, endRun, setMeasuring, note, EngineEvent.call?]

/-- How the run of an engine stands after the end of a tick or a stop. It goes on without
a call, or it ends. Conversions are switched off with its end, unless its thread is gone. -/
inductive Winds (run : Run) (e e' : Engine β) : Prop
  | goesOn {run' : Run} :
      e'.run = some run' →
      run'.stream = run.stream →
      run'.sampler.epoch = run.sampler.epoch →
      (Board.ReadsReturn β → run'.crashed = run.crashed) →
      e'.custody = .sampling ∨ e'.custody = .awaited ∧ run'.openTick.isSome →
      e'.calls = e.calls →
      Winds run e e'
  | handsBack :
      e'.run = none →
      e'.custody = .parked →
      e'.calls = e.calls ++ [.measure false] →
      Winds run e e'
  | loses :
      e'.run = none →
      e'.custody = .lost →
      (Board.ReadsReturn β → run.crashed = true) →
      e'.calls = e.calls →
      Winds run e e'

theorem endTick_winds {e : Engine β} {run : Run} (tick : OpenTick)
    (hcustody : e.custody = .sampling ∨ e.custody = .awaited) :
    Winds run e (e.endTick run tick).1 := by
  cases hresult : run.sampler.result? tick.snapshot (Board.read e.config.readTimeout e.board).2 with
  | none =>
      -- A board whose reads return does not get here.
      have hcrash : ∀ p : Prop, Board.ReadsReturn β → p := fun p hreturns =>
        absurd (outcome_eq_crash hresult) (hreturns _ _)
      simp only [endTick, hresult]
      split
      · exact .loses rfl rfl (hcrash _) (by simp [calls, endRun, note, EngineEvent.call?])
      · next hne =>
          exact .goesOn rfl rfl rfl (hcrash _) (.inl (hcustody.resolve_right hne))
            ((note_calls _ _).trans (List.append_nil _))
  | some result =>
      rcases hsettle : settle
          { e with
            board := (Board.read e.config.readTimeout e.board).1
            clock := e.clock.advance tick.lag }
          run tick (Board.read e.config.readTimeout e.board).2 result with
        ⟨e₁, run₁, signals⟩
      rcases hpace : e₁.pace run₁ with ⟨e₂, run₂⟩
      obtain ⟨hcalls, hcustody₂, hstream, hepoch, hcrashed⟩ :=
        settle_pace _ run tick _ result hsettle hpace
      simp only [endTick, hresult, hsettle, hpace]
      split
      · exact .handsBack rfl rfl ((handBack_calls _ _).trans (congrArg (· ++ _) hcalls))
      · next hne =>
          rw [hcustody₂] at hne
          exact .goesOn rfl hstream hepoch (fun _ => hcrashed)
            (.inl (hcustody₂.trans (hcustody.resolve_right hne))) hcalls

theorem stop_winds {e : Engine β} {run : Run} (hphase : e.phase = .running)
    (hrun : e.run = some run) : Winds run e e.stop.1 := by
  simp only [stop, hphase, hrun]
  split
  · next hcrashed =>
      exact .loses rfl rfl (fun _ => hcrashed) ((note_calls _ _).trans (List.append_nil _))
  split
  · next hopen => exact .goesOn rfl rfl rfl (fun _ => rfl) (.inr ⟨rfl, hopen⟩) rfl
  · exact .handsBack rfl rfl (handBack_calls e run)

/-- A stop changes no calibration. -/
theorem stop_snapshot (e : Engine β) : e.stop.1.store.snapshot = e.store.snapshot := by
  unfold stop
  split
  · split
    · rfl
    · split <;> rfl
  · rfl

/-- A start changes no calibration. -/
theorem start_snapshot (e : Engine β) : e.start.1.store.snapshot = e.store.snapshot := by
  obtain ⟨board, log, result, harm', -⟩ := arm_eq e.attempted.retimed
  have hends := e.start_ends
  generalize e.start = ending at hends ⊢
  cases hends with
  | denied _ => rfl
  | unwaitable _ => rfl
  | obstructed _ _ => rfl
  | unarmed _ _ harm =>
      cases harm.symm.trans harm'
      rfl
  | brokenOff _ _ harm =>
      cases harm.symm.trans harm'
      rfl
  | launched _ _ harm =>
      cases harm.symm.trans harm'
      rfl

/-! ### Starts -/

/-- What arming a board asks for. -/
def armCalls (e : Engine β) : List BoardCall := [.measure true, .select e.store.snapshot.bridge]

variable [Board.Obliging β]

theorem setMeasuring_eq (e : Engine β) (on : Bool) :
    ∃ board, e.setMeasuring on =
      ({ e with board := board, log := e.log.push (.measure on true) }, .ok ()) := by
  simp only [setMeasuring, note, Board.Obliging.setMeasuring_ok on e.board]
  exact ⟨_, rfl⟩

theorem selectBridge_eq (e : Engine β) (bridge : Bridge) :
    ∃ board, e.selectBridge bridge =
      ({ e with board := board, log := e.log.push (.select bridge true) }, .ok ()) := by
  simp only [selectBridge, note, Board.Obliging.selectBridge_ok bridge e.board]
  exact ⟨_, rfl⟩

theorem arm_eq_ok (e : Engine β) :
    ∃ board log, e.arm = ({ e with board := board, log := log }, .ok ()) ∧
      callsOf log = e.calls ++ e.armCalls := by
  obtain ⟨board₁, hmeasure⟩ := e.setMeasuring_eq true
  obtain ⟨board₂, hselect⟩ := selectBridge_eq
    ({ e with board := board₁, log := e.log.push (.measure true true) } : Engine β)
    e.store.snapshot.bridge
  refine ⟨board₂, (e.log.push (.measure true true)).push (.select e.store.snapshot.bridge true),
    ?_, ?_⟩
  · simp only [arm, hmeasure, hselect]
  · simp [calls, armCalls, EngineEvent.call?]

/-- With such a board a start either fails before the board is armed, or is broken off
afterwards, or starts a stream. -/
theorem start_calls (e : Engine β) :
    (∃ e' outcome, e.start = (e', outcome) ∧ outcome ≠ .done ∧ e'.run = e.run ∧
      e'.custody = e.custody ∧ e'.store.snapshot = e.store.snapshot ∧ e'.calls = e.calls) ∨
    (∃ e', e.start = (e', .brokenOff) ∧ e.custody = .parked ∧ e'.run = e.run ∧
      e'.calls = e.calls ++ e.armCalls) ∨
    ∃ board log, e.start = (e.started board log, .done) ∧
      callsOf log = e.calls ++ e.armCalls := by
  obtain ⟨board, log, harm', hlog⟩ := arm_eq_ok e.attempted.retimed
  have hends := e.start_ends
  generalize e.start = ending at hends ⊢
  cases hends with
  | denied _ => exact .inl ⟨_, _, rfl, by simp, rfl, rfl, rfl, rfl⟩
  | unwaitable _ => exact .inl ⟨_, _, rfl, by simp, rfl, rfl, rfl, rfl⟩
  | obstructed _ _ => exact .inl ⟨_, _, rfl, by simp, rfl, rfl, rfl, rfl⟩
  | unarmed _ _ harm => cases harm.symm.trans harm'
  | brokenOff _ hparked harm =>
      cases harm.symm.trans harm'
      exact .inr (.inl ⟨_, rfl, hparked, rfl, hlog⟩)
  | launched _ _ harm =>
      cases harm.symm.trans harm'
      exact .inr (.inr ⟨board, log, rfl, hlog⟩)

end Board

/-! ### The board is routed as the sampler believes -/

/-- While a stream has the board, conversions are on, and the bridge selected last is the one
whose epoch the sampler has seen. Since then so many commits have selected a bridge. -/
def Routed (e : Engine β) (pending : Nat) : Prop :=
  ∀ run, e.run = some run → ∃ b, standing e.calls = ⟨true, some b⟩ ∧
    (pending = 0 → b = e.store.snapshot.bridge) ∧
    e.store.snapshot.bridgeEpoch.toNat = (run.sampler.epoch.toNat + pending) % 2 ^ 64

theorem Routed.of_same {e e' : Engine β} {pending : Nat} (h : e.Routed pending)
    (hrun : e'.run = e.run) (hsnapshot : e'.store.snapshot = e.store.snapshot)
    (hcalls : e'.calls = e.calls) : e'.Routed pending := by
  intro run hrun'
  rw [hcalls, hsnapshot]
  exact h run (hrun ▸ hrun')

/-- A commit that selects a bridge is one more that the sampler has not seen. -/
theorem Routed.wrote {e : Engine β} {pending : Nat} {command : Settings.Command}
    {store : Settings.Store} (h : e.Routed pending) (hwrote : command.run e.store = .ok store) :
    Routed { e with store := store } (pending + (command.selected? e.store).toList.length) := by
  intro run hrun
  obtain ⟨b, hstanding, hbridge, hepoch⟩ := h run hrun
  exact ⟨b, hstanding, Settings.Command.run_ahead hwrote hbridge hepoch⟩

theorem started_routed {e : Engine β} {board : β} {log : Array EngineEvent}
    (hlog : callsOf log = e.calls ++ e.armCalls) :
    (e.started board log).Routed 0 ∧ readings (callsOf log) = readings e.calls := by
  rw [hlog, readings_append]
  refine ⟨?_, List.append_nil _⟩
  intro run hrun
  obtain rfl : e.newRun = run := Option.some.inj hrun
  have hcalls : (e.started board log).calls = e.calls ++ e.armCalls := hlog
  refine ⟨e.store.snapshot.bridge, ?_, fun _ => rfl, ?_⟩
  · rw [hcalls, standing_append]
    rfl
  · exact (Nat.mod_eq_of_lt (UInt64.toNat_lt _)).symm

section Board

variable [Board β]

theorem Winds.routed {e e' : Engine β} {run : Run} {pending : Nat} (hw : Winds run e e')
    (hrun : e.run = some run) (hsnapshot : e'.store.snapshot = e.store.snapshot)
    (h : e.Routed pending) : e'.Routed pending ∧ readings e'.calls = readings e.calls := by
  cases hw with
  | goesOn hrun' _ hepoch _ _ hcalls =>
      refine ⟨?_, by rw [hcalls]⟩
      intro run₁ hrun₁
      obtain rfl := Option.some.inj (hrun'.symm.trans hrun₁)
      rw [hcalls, hsnapshot, hepoch]
      exact h run hrun
  | handsBack hnone _ hcalls =>
      refine ⟨fun run₁ hrun₁ => absurd (hnone.symm.trans hrun₁) (by simp), ?_⟩
      rw [hcalls, readings_append]
      exact List.append_nil _
  | loses hnone _ _ hcalls =>
      exact ⟨fun run₁ hrun₁ => absurd (hnone.symm.trans hrun₁) (by simp), by rw [hcalls]⟩

/-- A tick reads the board on the bridge of its snapshot, unless `2 ^ 64` selections hide
behind one epoch. -/
theorem Routed.beginTick {e : Engine β} {run : Run} {pending : Nat} (h : e.Routed pending)
    (hpending : pending < 2 ^ 64) (hrun : e.run = some run) (lag : Duration) :
    (e.beginTick run lag).1.Routed 0 ∧
      readings (e.beginTick run lag).1.calls =
        readings e.calls ++ [⟨true, some e.store.snapshot.bridge⟩] := by
  obtain ⟨b, hstanding, hbridge, hepoch⟩ := h run hrun
  have hsame : e.store.snapshot.bridgeEpoch = run.sampler.epoch → b = e.store.snapshot.bridge := by
    intro heq
    rw [heq] at hepoch
    exact hbridge (Settings.eq_zero_of_ahead hpending hepoch)
  obtain ⟨hreadings, hafter⟩ := readings_tick hsame
  obtain ⟨board, button, polled, log, signals, heq, -⟩ := beginTick_eq e run lag
  have hcalls := beginTick_calls e run lag
  constructor
  · intro run' hrun'
    refine ⟨e.store.snapshot.bridge, ?_, ?_, ?_⟩
    · rw [hcalls, standing_append, hstanding, hafter]
    · intro _
      rw [heq]
    · rw [heq] at hrun' ⊢
      obtain rfl := Option.some.inj hrun'
      simp only [Sampler.observe_epoch, Nat.add_zero]
      exact (Nat.mod_eq_of_lt (UInt64.toNat_lt _)).symm
  · rw [hcalls, readings_append, hstanding, hreadings]

/-- What ticks leave alone. -/
structure TickFrame {β : Type} (e e' : Engine β) : Prop where
  store : e'.store = e.store
  phase : e'.phase = e.phase
  attempts : e'.attempts = e.attempts

omit [Board β] in
theorem TickFrame.trans {e₁ e₂ e₃ : Engine β} (h : e₁.TickFrame e₂) (h' : e₂.TickFrame e₃) :
    e₁.TickFrame e₃ :=
  ⟨h'.store.trans h.store, h'.phase.trans h.phase, h'.attempts.trans h.attempts⟩

theorem endTick_keeps (e : Engine β) (run : Run) (tick : OpenTick) :
    e.TickFrame (e.endTick run tick).1 := by
  cases hresult : run.sampler.result? tick.snapshot (Board.read e.config.readTimeout e.board).2 with
  | none =>
      obtain ⟨board, clock, log, -, -, hleaves⟩ := endTick_of_crash hresult
      generalize (e.endTick run tick).1 = e' at hleaves ⊢
      cases hleaves <;> exact ⟨rfl, rfl, rfl⟩
  | some result =>
      obtain ⟨board, clock, late, deadline, log, -, -, -, hleaves⟩ := endTick_of_result hresult
      generalize (e.endTick run tick).1 = e' at hleaves ⊢
      cases hleaves <;> exact ⟨rfl, rfl, rfl⟩

end Board

end Engine

end QuadDaq

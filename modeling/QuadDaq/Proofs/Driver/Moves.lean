import QuadDaq.Driver.Basic
import QuadDaq.Proofs.Delivery.Order
import QuadDaq.Proofs.Stream.Change

/-!
# Moves of a driver

**Every command is a sequence of a few moves** (`step_moves`), each of which changes the
engine and the delivery side together. What one move preserves, every run preserves.

`Linked` is the invariant between the two sides: the signals that the delivery side has
received are those that the engine has published, and the current outlet is that of the
stream that runs. It makes a move of the driver a change of either side, so invariants of
the engine and of the delivery side need no further proof.
-/

namespace QuadDaq.Driver

open Relation (ReflTransGen)

variable {β : Type}

/-- What can become of a driver. The flag allows that its stream stops. -/
inductive Move (stops : Bool) : Driver β → Driver β → Prop
  /-- Something that concerns no stream happens to the engine. -/
  | aside {d : Driver β} {e' : Engine β} :
      Engine.Change d.engine e' →
      e'.published = d.engine.published →
      e'.run = d.engine.run →
      (e'.phase = .running ↔ d.engine.phase = .running) →
      Move stops d { d with engine := e' }
  /-- Reads are held, or no longer held. -/
  | readHeld (d : Driver β) (on : Bool) : Move stops d { d with readHeld := on }
  /-- A stream starts, and its outlet opens. -/
  | started {d : Driver β} {board : β} {log : Array EngineEvent} :
      d.engine.phase = .stopped →
      d.engine.custody = .parked →
      courseOf log = d.engine.course →
      Move stops d { d with
        engine := d.engine.started board log
        delivery := d.delivery.openStream (d.engine.attempts + 1) d.engine.config.queueCapacity }
  /-- The stream stops, and its outlet closes. -/
  | stopped {d : Driver β} {e' : Engine β} :
      stops = true →
      d.engine.phase = .running →
      Engine.Change d.engine e' →
      e'.phase = .stopped →
      e'.published = d.engine.published →
      Move stops d { d with engine := e', delivery := d.delivery.closeStream }
  /-- A stream goes through half a tick, and what it publishes is handed in. -/
  | ticked {d : Driver β} {run : Run} {e' : Engine β} {signals : List Signal} :
      d.engine.run = some run →
      Engine.HalfTick run d.engine e' signals →
      Move stops d { d with engine := e', delivery := d.delivery.publishAll run.stream signals }
  /-- Consumers or workers do something. -/
  | turned {d : Driver β} {delivery' : Delivery} :
      Delivery.Turn d.delivery delivery' →
      Move stops d { d with delivery := delivery' }

/-- The two sides of the driver agree. -/
structure Linked (d : Driver β) : Prop where
  coherent : d.engine.Coherent
  engineNumbered : d.engine.Numbered
  deliveryNumbered : d.delivery.Numbered d.engine.attempts
  received : d.delivery.received = d.engine.published
  running : d.engine.phase = .running ↔ d.delivery.current.isSome
  stream : ∀ o, d.delivery.current = some o → ∀ run, d.engine.run = some run → run.stream = o.stream

/-! ### A move of the driver is a change of either side -/

/-- A move takes the engine from change to change. -/
theorem Move.engine_changes {stops : Bool} {d d' : Driver β} (h : Move stops d d') :
    ReflTransGen Engine.Change d.engine d'.engine := by
  cases h with
  | aside hchange _ _ _ => exact .single hchange
  | readHeld on => exact .refl
  | started hphase hparked hlog => exact .single (.started hphase hparked hlog)
  | stopped _ _ hchange _ _ => exact .single hchange
  | ticked _ hhalf => exact hhalf.changes
  | turned _ => exact .refl

/-- What every change of the engine preserves, every sequence of changes preserves. -/
theorem preserved_of_changes {α : Type} {r : α → α → Prop} {P : α → Prop}
    (hstep : ∀ a b, r a b → P a → P b) {a b : α} (h : ReflTransGen r a b) (ha : P a) : P b := by
  induction h with
  | refl => exact ha
  | tail _ hab ih => exact hstep _ _ hab ih

theorem attempts_le_of_changes {e e' : Engine β} (h : ReflTransGen Engine.Change e e') :
    e.attempts ≤ e'.attempts := by
  induction h with
  | refl => exact Nat.le_refl _
  | tail _ hchange ih => exact Nat.le_trans ih hchange.attempts_le

/-- A move takes the delivery side from change to change. -/
theorem Move.delivery_changes {stops : Bool} {d d' : Driver β} (h : Move stops d d') (hl : d.Linked) :
    ReflTransGen (Delivery.Change d'.engine.attempts) d.delivery d'.delivery := by
  cases h with
  | aside _ _ _ _ => exact .refl
  | readHeld on => exact .refl
  | started hphase _ _ =>
      -- No stream runs, so no outlet is current.
      have hnone : d.delivery.current = none := by
        rw [← Option.not_isSome_iff_eq_none, ← hl.running, hphase]
        simp
      exact .single (.opened hnone hl.deliveryNumbered (Nat.lt_succ_self _) (Nat.le_refl _))
  | stopped _ hphase _ _ _ =>
      obtain ⟨o, ho⟩ := Option.isSome_iff_exists.mp (hl.running.mp hphase)
      exact .single (.closed ho)
  | ticked hrun hhalf =>
      refine Delivery.publishAll_changes ?_ _ _
      exact Nat.le_trans (hl.engineNumbered.run _ hrun) (attempts_le_of_changes hhalf.changes)
  | turned hturn => exact .single (.turned hturn)

theorem Move.received {stops : Bool} {d d' : Driver β} (h : Move stops d d') (hl : d.Linked) :
    d'.delivery.received = d'.engine.published := by
  have hreceived := hl.received
  cases h with
  | aside _ hpublished _ _ => exact hreceived.trans hpublished.symm
  | readHeld on => exact hreceived
  | started _ _ hlog => exact hreceived.trans (congrArg (List.filterMap _) hlog).symm
  | stopped _ _ _ _ hpublished =>
      exact (Delivery.closeStream_received _).trans (hreceived.trans hpublished.symm)
  | ticked _ hhalf => rw [Delivery.publishAll_received, hreceived, hhalf.published]
  | turned hturn => exact hturn.loses_nothing.1.trans hreceived

theorem Move.running {stops : Bool} {d d' : Driver β} (h : Move stops d d') (hl : d.Linked) :
    d'.engine.phase = .running ↔ d'.delivery.current.isSome := by
  have hrunning := hl.running
  have hisSome : ∀ {c c' : Option Outlet}, c'.map Outlet.stream = c.map Outlet.stream →
      c'.isSome = c.isSome := by
    intro c c' hmap
    rw [← Option.isSome_map (f := Outlet.stream), hmap, Option.isSome_map]
  cases h with
  | aside _ _ _ hphase => exact hphase.trans hrunning
  | readHeld on => exact hrunning
  | started _ _ _ => exact iff_of_true rfl rfl
  | stopped _ _ _ hphase _ =>
      rw [hphase, Delivery.closeStream_current]
      simp
  | ticked _ hhalf =>
      rw [hhalf.phase, hrunning, hisSome (Delivery.publishAll_current_stream _ _ _)]
  | turned hturn => rw [hrunning, hisSome hturn.current_stream]

theorem Move.stream {stops : Bool} {d d' : Driver β} (h : Move stops d d') (hl : d.Linked) {o' : Outlet}
    (ho' : d'.delivery.current = some o') {run' : Run} (hrun' : d'.engine.run = some run') :
    run'.stream = o'.stream := by
  have hstream := hl.stream
  have hsame : ∀ {c : Option Outlet}, c.map Outlet.stream = d.delivery.current.map Outlet.stream →
      c = some o' → ∃ o, d.delivery.current = some o ∧ o.stream = o'.stream := by
    rintro c hmap rfl
    obtain ⟨o, ho, heq⟩ := Option.map_eq_some_iff.mp hmap.symm
    exact ⟨o, ho, heq⟩
  cases h with
  | aside _ _ hrun _ => exact hstream o' ho' run' (hrun.symm.trans hrun')
  | readHeld on => exact hstream o' ho' run' hrun'
  | started _ _ _ => rw [← Option.some.inj ho', ← Option.some.inj hrun']; rfl
  | stopped _ _ _ _ _ => exact absurd (ho'.symm.trans (Delivery.closeStream_current _)) (by simp)
  | ticked hrun hhalf =>
      obtain ⟨o, ho, heq⟩ := hsame (Delivery.publishAll_current_stream _ _ _) ho'
      rw [hhalf.stream run' hrun', hstream o ho _ hrun, heq]
  | turned hturn =>
      obtain ⟨o, ho, heq⟩ := hsame hturn.current_stream ho'
      rw [hstream o ho run' hrun', heq]

/-- Every move keeps the two sides in agreement. -/
theorem Move.linked {stops : Bool} {d d' : Driver β} (h : Move stops d d') (hl : d.Linked) : d'.Linked where
  coherent :=
    preserved_of_changes (P := Engine.Coherent) (fun _ _ => Engine.Change.coherent)
      h.engine_changes hl.coherent
  engineNumbered :=
    preserved_of_changes (P := Engine.Numbered) (fun _ _ => Engine.Change.numbered)
      h.engine_changes hl.engineNumbered
  deliveryNumbered :=
    preserved_of_changes (P := Delivery.Numbered d'.engine.attempts)
      (fun _ _ => Delivery.Change.numbered) (h.delivery_changes hl)
      (hl.deliveryNumbered.mono (attempts_le_of_changes h.engine_changes))
  received := h.received hl
  running := h.running hl
  stream := fun _ ho _ hrun => h.stream hl ho hrun

/-- Moves keep the two sides in agreement. -/
theorem moves_linked {stops : Bool} {d d' : Driver β} (h : ReflTransGen (Move stops) d d')
    (hl : d.Linked) : d'.Linked := by
  induction h with
  | refl => exact hl
  | tail _ hmove ih => exact hmove.linked ih

/-- Moves take the engine from change to change. -/
theorem moves_changes {stops : Bool} {d d' : Driver β} (h : ReflTransGen (Move stops) d d') :
    ReflTransGen Engine.Change d.engine d'.engine := by
  induction h with
  | refl => exact .refl
  | tail _ hmove ih => exact ih.trans hmove.engine_changes

/-- A move is one as well where the stream may stop. -/
theorem Move.stopping {stops : Bool} {d d' : Driver β} (h : Move stops d d') : Move true d d' := by
  cases h with
  | aside hchange hpublished hrun hphase => exact .aside hchange hpublished hrun hphase
  | readHeld on => exact .readHeld d on
  | started hphase hparked hlog => exact .started hphase hparked hlog
  | stopped _ hphase hchange hphase' hpublished =>
      exact .stopped rfl hphase hchange hphase' hpublished
  | ticked hrun hhalf => exact .ticked hrun hhalf
  | turned hturn => exact .turned hturn

/-- The batches that the delivery side has received are those that the engine has
published. -/
theorem Linked.receivedBatches_eq {d : Driver β} (hl : d.Linked) :
    d.delivery.receivedBatches = d.engine.batches := by
  rw [Delivery.receivedBatches, Engine.batches, hl.received]

theorem Linked.receivedOf_eq {d : Driver β} (hl : d.Linked) (k : Nat) :
    d.delivery.receivedOf k = d.engine.batchesOf k :=
  congrArg (ofStream k) hl.receivedBatches_eq

/-! ### Commands as moves -/

variable {stops : Bool}

theorem turned_moves {d : Driver β} {delivery' : Delivery}
    (h : ReflTransGen Delivery.Turn d.delivery delivery') :
    ReflTransGen (Move stops) d { d with delivery := delivery' } := by
  induction h with
  | refl => exact .refl
  | tail _ hturn ih => exact ih.tail (.turned hturn)

theorem deliver_moves (d : Driver β) : ReflTransGen (Move stops) d d.deliver :=
  turned_moves (Delivery.deliver_turns d.delivery)

theorem readiness_eq_done {d : Driver β} :
    d.readiness = .done ↔ d.engine.phase = .running ∧
      ∃ run, d.engine.run = some run ∧ run.crashed = false ∧ run.openTick = none := by
  unfold readiness
  split
  · next run hphase hrun =>
      cases hcrashed : run.crashed <;> cases hopen : run.openTick <;> simp_all
  · next hne =>
      constructor
      · simp
      · rintro ⟨hphase, run, hrun, -⟩
        exact absurd hrun (hne run hphase)

theorem configure_moves (d : Driver β) (command : Settings.Command) :
    ReflTransGen (Move stops) d (d.configure command).1 := by
  simp only [configure, Engine.configure]
  cases hrun : command.run d.engine.store with
  | ok store => exact .single (.aside (.wrote hrun) rfl rfl Iff.rfl)
  | error refusal => exact .refl

theorem register_moves (d : Driver β) (kind : EventKind) (consumer : String) :
    ReflTransGen (Move stops) d (d.register kind consumer).1 := by
  unfold register
  split
  · exact .refl
  · exact .single (.turned (.registered d.delivery kind consumer))

section Board

variable [Board β]

/-- The driver after the first half of a tick. -/
def begun (d : Driver β) (run : Run) (lag : Duration) : Driver β :=
  { d with engine := (d.engine.beginTick run lag).1 }.publish run.stream
    (d.engine.beginTick run lag).2

/-- The driver after the second half of a tick, before anything of it is delivered. -/
def ended (d : Driver β) (run : Run) (tick : OpenTick) : Driver β :=
  { d with engine := (d.engine.endTick run tick).1 }.publish run.stream (d.engine.endTick run tick).2

theorem tick_of_not_ready {d : Driver β} (h : d.readiness ≠ .done) (lag : Duration) :
    d.tick lag = (d, d.readiness) := by
  unfold Driver.tick
  split
  · next hdone _ => exact absurd hdone h
  · rfl

/-- A tick that is ready begins, and ends unless reads are held. -/
theorem tick_of_ready {d : Driver β} (h : d.readiness = .done) (lag : Duration) :
    ∃ run run' tick, d.engine.run = some run ∧ (d.begun run lag).engine.run = some run' ∧
      run'.stream = run.stream ∧ run'.openTick = some tick ∧
      tick.snapshot = d.engine.store.snapshot ∧
      d.tick lag = if d.readHeld then ((d.begun run lag).deliver, .stuck)
        else ((d.begun run lag).completeTick run' tick,
          ((d.begun run lag).completeTick run' tick).tickReply) := by
  obtain ⟨-, run, hrun, -, -⟩ := readiness_eq_done.mp h
  obtain ⟨run', tick, hrun', hstream, hopen, hsnapshot⟩ := d.engine.beginTick_run run lag
  refine ⟨run, run', tick, hrun, hrun', hstream, hopen, hsnapshot, ?_⟩
  have hbegun : (d.begun run lag).engine.run = some run' := hrun'
  have hheld : (d.begun run lag).readHeld = d.readHeld := rfl
  simp only [Driver.tick, h, hrun]
  rw [← begun, hheld]
  split
  · rfl
  · simp only [hbegun, hopen]

/-- A tick that is not ready changes nothing. Another one begins, and ends unless reads are
held. -/
theorem tick_cases (d : Driver β) (lag : Duration) :
    (d.readiness ≠ .done ∧ (d.tick lag).1 = d) ∨
    ∃ run run' tick, d.readiness = .done ∧ d.engine.run = some run ∧
      (d.begun run lag).engine.run = some run' ∧ run'.stream = run.stream ∧
      run'.openTick = some tick ∧ tick.snapshot = d.engine.store.snapshot ∧
      (d.tick lag).1 = if d.readHeld then (d.begun run lag).deliver
        else (d.begun run lag).completeTick run' tick := by
  by_cases hready : d.readiness = .done
  · obtain ⟨run, run', tick, hrun, hrun', hstream, hopen, hsnapshot, heq⟩ := tick_of_ready hready lag
    refine .inr ⟨run, run', tick, hready, hrun, hrun', hstream, hopen, hsnapshot, ?_⟩
    rw [heq]
    split <;> rfl
  · exact .inl ⟨hready, by rw [tick_of_not_ready hready]⟩

/-- The first half of a tick is a move. -/
theorem begun_move {d : Driver β} {run : Run} (lag : Duration) (hready : d.readiness = .done)
    (hrun : d.engine.run = some run) : Move stops d (d.begun run lag) := by
  obtain ⟨hphase, run', hrun', hcrashed, hclosed⟩ := readiness_eq_done.mp hready
  obtain rfl : run' = run := Option.some.inj (hrun'.symm.trans hrun)
  exact .ticked hrun (Engine.beginTick_half lag hphase hrun hclosed hcrashed)

/-- So is the second one. -/
theorem ended_move {d : Driver β} (hl : d.Linked) {run : Run} {tick : OpenTick}
    (hrun : d.engine.run = some run) (hopen : run.openTick = some tick) :
    Move stops d (d.ended run tick) :=
  .ticked hrun (Engine.endTick_half hrun hopen hl.coherent.not_running)

theorem completeTick_moves {d : Driver β} (hl : d.Linked) {run : Run} {tick : OpenTick}
    (hrun : d.engine.run = some run) (hopen : run.openTick = some tick) :
    ReflTransGen (Move stops) d (d.completeTick run tick) :=
  .head (ended_move hl hrun hopen) (deliver_moves _)

theorem tick_moves {d : Driver β} (hl : d.Linked) (lag : Duration) :
    ReflTransGen (Move stops) d (d.tick lag).1 := by
  rcases d.tick_cases lag with ⟨-, heq⟩ | ⟨run, run', tick, hready, hrun, hrun', -, hopen, -, heq⟩
  · rw [heq]
  · have hbegun : Move stops d (d.begun run lag) := begun_move lag hready hrun
    rw [heq]
    by_cases hheld : d.readHeld
    · rw [if_pos hheld]
      exact .head hbegun (deliver_moves _)
    · rw [if_neg hheld]
      exact .head hbegun (completeTick_moves (hbegun.linked hl) hrun' hopen)

/-- Releasing reads completes the tick that is open, if one is. -/
theorem releaseRead_cases (d : Driver β) :
    (∃ run tick, d.engine.run = some run ∧ run.openTick = some tick ∧
      d.releaseRead = ({ d with readHeld := false } : Driver β).completeTick run tick) ∨
    ((∀ run, d.engine.run = some run → run.openTick = none) ∧
      d.releaseRead = { d with readHeld := false }) := by
  cases hrun : d.engine.run with
  | none => exact .inr ⟨by simp, by simp only [releaseRead, hrun]⟩
  | some run =>
      cases hopen : run.openTick with
      | none => exact .inr ⟨by simp [hopen], by simp only [releaseRead, hrun, hopen]⟩
      | some tick => exact .inl ⟨run, tick, rfl, hopen, by simp only [releaseRead, hrun, hopen]⟩

theorem releaseRead_moves {d : Driver β} (hl : d.Linked) :
    ReflTransGen (Move stops) d d.releaseRead := by
  have hheld : Move stops d { d with readHeld := false } := .readHeld d false
  rcases d.releaseRead_cases with ⟨run, tick, hrun, hopen, heq⟩ | ⟨-, heq⟩
  · rw [heq]
    exact .head hheld (completeTick_moves (hheld.linked hl) hrun hopen)
  · rw [heq]
    exact .single hheld

/-- A start that succeeds starts a stream and opens its outlet. -/
theorem start_eq_of_done {d : Driver β} (h : d.start.2 = .done) :
    d.engine.phase = .stopped ∧ d.engine.custody = .parked ∧
      ∃ board log, courseOf log = d.engine.course ∧ d.start.1 = { d with
        engine := d.engine.started board log
        delivery := d.delivery.openStream (d.engine.attempts + 1) d.engine.config.queueCapacity } := by
  unfold start at h ⊢
  rcases d.engine.start_cases with ⟨-, heq⟩ | ⟨-, e', outcome, heq, hne, -⟩ |
    ⟨hphase, hparked, board, log, hlog, heq⟩
  · rw [heq] at h
    cases h
  · rw [heq] at h
    cases outcome with
    | done => exact absurd rfl hne
    | refused e => cases h
    | brokenOff => cases h
  · refine ⟨hphase, hparked, board, log, hlog, ?_⟩
    rw [heq]
    rfl

theorem start_moves (d : Driver β) : ReflTransGen (Move stops) d d.start.1 := by
  rcases d.engine.start_cases with ⟨-, heq⟩ |
    ⟨hphase, e', outcome, heq, hne, hchange, hcourse, hrun, hphase'⟩ |
    ⟨hphase, hparked, board, log, hlog, heq⟩
  · unfold start
    rw [heq]
  · have hmove : Move stops d { d with engine := e' } :=
      .aside hchange (congrArg (List.filterMap _) hcourse) hrun (by simp [hphase, hphase'])
    unfold start
    rw [heq]
    cases outcome with
    | done => exact absurd rfl hne
    | refused e => exact .single hmove
    | brokenOff => exact .single hmove
  · unfold start
    rw [heq]
    exact .single (.started hphase hparked hlog)

theorem stop_moves {d : Driver β} (hl : d.Linked) : ReflTransGen (Move true) d d.stop.1 := by
  unfold stop
  by_cases hphase : d.engine.phase = .running
  · obtain ⟨e', heq, hchange, hphase', huneventful, -⟩ :=
      Engine.stop_eq_of_running hl.coherent hphase
    rw [heq]
    exact .single (.stopped rfl hphase hchange hphase' huneventful.published)
  · rw [Engine.stop_eq_of_ne hphase]

/-- A start opens an outlet, or leaves the delivery side alone. -/
theorem start_delivery_cases (d : Driver β) :
    d.start.1.delivery = d.delivery ∨
      ∃ k capacity, d.start.1.delivery = d.delivery.openStream k capacity := by
  unfold start
  split
  · exact .inr ⟨_, _, rfl⟩
  · exact .inl rfl

/-- A stop closes the current outlet, or leaves the delivery side alone. -/
theorem stop_delivery_cases (d : Driver β) :
    d.stop.1.delivery = d.delivery ∨ d.stop.1.delivery = d.delivery.closeStream := by
  unfold stop
  split
  · exact .inr rfl
  · exact .inl rfl

/-- The command that stops a stream. -/
def Command.isStop : Command β → Bool
  | .stop => true
  | _ => false

/-- Every command is a sequence of moves, and only one of them stops the stream. -/
theorem step_moves {d : Driver β} (hl : d.Linked) (command : Command β) :
    ReflTransGen (Move command.isStop) d (d.step command).1 := by
  cases command with
  | start => exact start_moves d
  | stop => exact stop_moves hl
  | tick lag => exact tick_moves hl lag
  | register kind consumer => exact register_moves d kind consumer
  | configure command => exact configure_moves d command
  | hold kind => exact .single (.turned (.held d.delivery kind true))
  | unhold kind => exact .single (.turned (.held d.delivery kind false))
  | release kind => exact turned_moves (Delivery.release_turns d.delivery kind)
  | finish stream kind => exact turned_moves (Delivery.finish_turns d.delivery stream kind)
  | holdRead => exact .single (.readHeld d true)
  | releaseRead => exact releaseRead_moves hl
  | disturb change => exact .single (.aside (.quiet rfl) rfl rfl Iff.rfl)

/-! ### Slices -/

/-- What a driver does in one go when its threads take turns as they like: a command with all
that it causes, half a tick of which nothing is delivered yet, or one step of a worker or a
consumer. -/
inductive Slice : Driver β → Driver β → Prop
  | commanded {d : Driver β} (command : Command β) : Slice d (d.step command).1
  | begun {d : Driver β} {run : Run} (lag : Duration) :
      d.readiness = .done →
      d.engine.run = some run →
      Slice d (d.begun run lag)
  | ended {d : Driver β} {run : Run} {tick : OpenTick} :
      d.engine.run = some run →
      run.openTick = some tick →
      Slice d (d.ended run tick)
  | turned {d : Driver β} {delivery' : Delivery} :
      Delivery.Turn d.delivery delivery' →
      Slice d { d with delivery := delivery' }

theorem Slice.moves {d d' : Driver β} (h : Slice d d') (hl : d.Linked) :
    ReflTransGen (Move true) d d' := by
  cases h with
  | commanded command => exact ReflTransGen.mono (fun _ _ => Move.stopping) _ _ (step_moves hl command)
  | begun lag hready hrun => exact .single (begun_move lag hready hrun)
  | ended hrun hopen => exact .single (ended_move hl hrun hopen)
  | turned hturn => exact .single (.turned hturn)

theorem slices_moves {d d' : Driver β} (h : ReflTransGen Slice d d') (hl : d.Linked) :
    ReflTransGen (Move true) d d' := by
  induction h with
  | refl => exact .refl
  | tail _ hslice ih => exact ih.trans (hslice.moves (moves_linked ih hl))

end Board

end QuadDaq.Driver

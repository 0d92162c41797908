import Mathlib.Algebra.Ring.Nat
import QuadDaq.Stream.Engine

/-!
# The course of the streams

**What the log of an engine tells of its streams**: the ticks they completed, the
signals they published, the reads that took them down and the rows they ended with.
Calls on the board and sleeps are left out (`EngineEvent.isCall`), so that a function
that only calls the board leaves the course as it is.

For each function of the first half of a tick one statement says what it adds to the
course and which parts of the engine it touches (`beginTick_eq`). Nothing downstream opens
these functions again.
-/

namespace QuadDaq

/-- The entries of one stream among numbered entries. -/
def ofStream {α : Type} (k : Nat) (entries : List (Nat × α)) : List α :=
  entries.filterMap fun p => if p.1 = k then some p.2 else none

section OfStream

variable {α γ : Type} (k : Nat)

@[simp] theorem ofStream_nil : ofStream k ([] : List (Nat × α)) = [] := rfl

@[simp] theorem ofStream_append (l m : List (Nat × α)) :
    ofStream k (l ++ m) = ofStream k l ++ ofStream k m :=
  List.filterMap_append

@[simp] theorem ofStream_map_mk (j : Nat) (l : List α) :
    ofStream k (l.map (Prod.mk j)) = if j = k then l else [] := by
  rw [ofStream, List.filterMap_map, Function.comp_def]
  by_cases h : j = k <;> simp [h]

@[simp] theorem ofStream_singleton (j : Nat) (a : α) :
    ofStream k [(j, a)] = if j = k then [a] else [] :=
  ofStream_map_mk k j [a]

/-- A stream whose number does not occur has no entries. -/
theorem ofStream_eq_nil {l : List (Nat × α)} (h : ∀ p ∈ l, p.1 ≠ k) : ofStream k l = [] := by
  rw [ofStream, List.filterMap_eq_nil_iff]
  intro p hp
  rw [if_neg (h p hp)]

end OfStream

/-- The weight of all these batches together. -/
def weigh (w : Batch → Nat) (batches : List (Nat × Batch)) : Nat :=
  (batches.map fun p => w p.2).sum

section Weigh

variable (w : Batch → Nat)

@[simp] theorem weigh_nil : weigh w [] = 0 := rfl

@[simp] theorem weigh_cons (p : Nat × Batch) (l : List (Nat × Batch)) :
    weigh w (p :: l) = w p.2 + weigh w l := by
  simp [weigh]

@[simp] theorem weigh_append (l m : List (Nat × Batch)) :
    weigh w (l ++ m) = weigh w l + weigh w m := by
  simp [weigh]

theorem weigh_one (l : List (Nat × Batch)) : weigh (fun _ => 1) l = l.length := by
  induction l with
  | nil => rfl
  | cons p l ih => rw [weigh_cons, ih, List.length_cons, Nat.add_comm]

end Weigh

namespace EngineEvent

/-- A call on the board or the clock, which tells nothing of a stream. -/
def isCall : EngineEvent → Bool
  | .measure .. | .select .. | .reading .. | .slept .. => true
  | _ => false

/-- A completed tick, with the number of its stream. -/
def ticked? : EngineEvent → Option (Nat × TickRecord)
  | .ticked k r => some (k, r)
  | _ => none

/-- A published signal, with the number of its stream. -/
def published? : EngineEvent → Option (Nat × Signal)
  | .published k s => some (k, s)
  | _ => none

/-- A tick whose read took its stream down, with the number of the stream. -/
def crashed? : EngineEvent → Option (Nat × OpenTick)
  | .crashed k t => some (k, t)
  | _ => none

/-- The number of the stream that an event tells of. -/
def stream? : EngineEvent → Option Nat
  | .ticked k _ | .crashed k _ | .published k _ | .abandoned k _ => some k
  | _ => none

/-- The rows that a stream ended with. -/
def abandoned? : EngineEvent → Option (Array Row)
  | .abandoned _ rows => some rows
  | _ => none

@[simp] theorem published?_comp (k : Nat) :
    published? ∘ EngineEvent.published k = some ∘ Prod.mk k := rfl

@[simp] theorem ticked?_comp (k : Nat) : ticked? ∘ EngineEvent.published k = fun _ => none := rfl

@[simp] theorem published?_published (k : Nat) (s : Signal) :
    (published k s).published? = some (k, s) := rfl

@[simp] theorem abandoned?_published (k : Nat) (s : Signal) :
    (published k s).abandoned? = none := rfl

@[simp] theorem crashed?_published (k : Nat) (s : Signal) : (published k s).crashed? = none := rfl

@[simp] theorem ticked?_published (k : Nat) (s : Signal) : (published k s).ticked? = none := rfl

@[simp] theorem abandoned?_comp (k : Nat) :
    abandoned? ∘ EngineEvent.published k = fun _ => none := rfl

end EngineEvent

/-- The batch that a signal is. -/
def Signal.batch? : Signal → Option Batch
  | .batch b => some b
  | _ => none

/-- The events of a log that tell of a stream. -/
def courseOf (log : Array EngineEvent) : List EngineEvent :=
  log.toList.filter fun event => !event.isCall

@[simp] theorem courseOf_push (log : Array EngineEvent) (event : EngineEvent) :
    courseOf (log.push event) = courseOf log ++ if event.isCall then [] else [event] := by
  cases h : event.isCall <;> simp [courseOf, h]

namespace Engine

variable {β : Type}

/-- The events of an engine's log that tell of a stream. -/
def course (e : Engine β) : List EngineEvent := courseOf e.log

/-- All completed ticks, each with the number of its stream. -/
def ticked (e : Engine β) : List (Nat × TickRecord) := e.course.filterMap EngineEvent.ticked?

/-- All published signals, each with the number of its stream. -/
def published (e : Engine β) : List (Nat × Signal) := e.course.filterMap EngineEvent.published?

/-- All ticks whose reads took their streams down. -/
def crashes (e : Engine β) : List (Nat × OpenTick) := e.course.filterMap EngineEvent.crashed?

/-- The tick whose read has not returned, with the number of its stream. -/
def openTick? (e : Engine β) : Option (Nat × OpenTick) :=
  e.run.bind fun run => run.openTick.map (Prod.mk run.stream)

/-- All published batches, each with the number of its stream. -/
def batches (e : Engine β) : List (Nat × Batch) :=
  e.published.filterMap fun p => p.2.batch?.map (Prod.mk p.1)

/-- The rows that streams ended with. -/
def abandoned (e : Engine β) : List (Array Row) := e.course.filterMap EngineEvent.abandoned?

/-- The completed ticks of one stream, in order. -/
def ticksOf (e : Engine β) (k : Nat) : List TickRecord := ofStream k e.ticked

/-- The published batches of one stream, in order. -/
def batchesOf (e : Engine β) (k : Nat) : List Batch := ofStream k e.batches

section Views

variable {e e' : Engine β} {added : List EngineEvent}

theorem filterMap_of_course {α : Type} (view : EngineEvent → Option α)
    (h : e'.course = e.course ++ added) :
    e'.course.filterMap view = e.course.filterMap view ++ added.filterMap view := by
  rw [h, List.filterMap_append]

theorem ticked_of_course (h : e'.course = e.course ++ added) :
    e'.ticked = e.ticked ++ added.filterMap EngineEvent.ticked? :=
  filterMap_of_course _ h

theorem published_of_course (h : e'.course = e.course ++ added) :
    e'.published = e.published ++ added.filterMap EngineEvent.published? :=
  filterMap_of_course _ h

theorem batches_of_course (h : e'.course = e.course ++ added) :
    e'.batches = e.batches ++ (added.filterMap EngineEvent.published?).filterMap fun p =>
      p.2.batch?.map (Prod.mk p.1) := by
  rw [batches, published_of_course h, List.filterMap_append, ← batches]

theorem crashes_of_course (h : e'.course = e.course ++ added) :
    e'.crashes = e.crashes ++ added.filterMap EngineEvent.crashed? :=
  filterMap_of_course _ h

theorem abandoned_of_course (h : e'.course = e.course ++ added) :
    e'.abandoned = e.abandoned ++ added.filterMap EngineEvent.abandoned? :=
  filterMap_of_course _ h

/-- The batches among signals of one stream. -/
theorem batches_map_mk (k : Nat) (signals : List Signal) :
    ((signals.map (Prod.mk k)).filterMap fun p => p.2.batch?.map (Prod.mk p.1)) =
      (signals.filterMap Signal.batch?).map (Prod.mk k) := by
  rw [List.filterMap_map, List.map_filterMap]
  rfl

end Views

/-- What one kind of event tells is found where these events are. -/
theorem mem_filterMap_view {α : Type} {view : EngineEvent → Option α} {event : α → EngineEvent}
    (h : ∀ x a, view x = some a ↔ x = event a) {events : List EngineEvent} {a : α} :
    a ∈ events.filterMap view ↔ event a ∈ events := by
  rw [List.mem_filterMap]
  constructor
  · rintro ⟨x, hx, heq⟩
    rw [← (h x a).mp heq]
    exact hx
  · intro hmem
    exact ⟨event a, hmem, (h (event a) a).mpr rfl⟩

theorem mem_ticked {e : Engine β} {k : Nat} {r : TickRecord} :
    (k, r) ∈ e.ticked ↔ .ticked k r ∈ e.course := by
  have hview : ∀ (x : EngineEvent) (p : Nat × TickRecord),
      x.ticked? = some p ↔ x = .ticked p.1 p.2 := by
    intro x p
    cases x <;> simp [EngineEvent.ticked?, Prod.ext_iff]
  exact mem_filterMap_view hview

theorem mem_published {e : Engine β} {k : Nat} {s : Signal} :
    (k, s) ∈ e.published ↔ .published k s ∈ e.course := by
  have hview : ∀ (x : EngineEvent) (p : Nat × Signal),
      x.published? = some p ↔ x = .published p.1 p.2 := by
    intro x p
    cases x <;> simp [EngineEvent.published?, Prod.ext_iff]
  exact mem_filterMap_view hview

theorem mem_crashes {e : Engine β} {k : Nat} {tick : OpenTick} :
    (k, tick) ∈ e.crashes ↔ .crashed k tick ∈ e.course := by
  have hview : ∀ (x : EngineEvent) (p : Nat × OpenTick),
      x.crashed? = some p ↔ x = .crashed p.1 p.2 := by
    intro x p
    cases x <;> simp [EngineEvent.crashed?, Prod.ext_iff]
  exact mem_filterMap_view hview

theorem mem_batches {e : Engine β} {k : Nat} {b : Batch} :
    (k, b) ∈ e.batches ↔ .published k (.batch b) ∈ e.course := by
  rw [batches, List.mem_filterMap, ← mem_published]
  constructor
  · rintro ⟨⟨j, s⟩, hs, heq⟩
    cases s <;> simp [Signal.batch?] at heq
    obtain ⟨rfl, rfl⟩ := heq
    exact hs
  · intro h
    exact ⟨_, h, rfl⟩

/-- A stream of which the course tells nothing has completed no tick, published no batch,
and has not crashed. -/
theorem ticksOf_eq_nil {e : Engine β} {k : Nat} (h : ∀ event ∈ e.course, event.stream? ≠ some k) :
    e.ticksOf k = [] ∧ e.batchesOf k = [] ∧ ofStream k e.crashes = [] := by
  refine ⟨?_, ?_, ?_⟩
  · apply ofStream_eq_nil
    rintro ⟨j, r⟩ hp rfl
    exact h _ (mem_ticked.mp hp) rfl
  · apply ofStream_eq_nil
    rintro ⟨j, b⟩ hp rfl
    exact h _ (mem_batches.mp hp) rfl
  · apply ofStream_eq_nil
    rintro ⟨j, tick⟩ hp rfl
    exact h _ (mem_crashes.mp hp) rfl

/-! ### Signals -/

/-- Emitting only adds to the log. -/
theorem emit_eq (k : Nat) (signals : List Signal) :
    ∀ e : Engine β, ∃ log, e.emit k signals = { e with log := log } ∧
      courseOf log = e.course ++ signals.map (.published k) := by
  induction signals with
  | nil => exact fun e => ⟨e.log, rfl, by simp [course]⟩
  | cons s rest ih =>
      intro e
      obtain ⟨log, heq, hlog⟩ := ih (e.note (.published k s))
      refine ⟨log, heq, ?_⟩
      rw [hlog]
      simp [course, note, EngineEvent.isCall]

section Board

variable [Board β]

/-! ### The first half of a tick -/

/-- Routing takes notice of the epoch, and publishes an error at most. -/
theorem route_eq (e : Engine β) (run : Run) (snapshot : Settings.Snapshot) :
    ∃ board log signals,
      e.route run snapshot = ({ e with board := board, log := log },
        { run with sampler := run.sampler.observe snapshot.bridgeEpoch }, signals) ∧
      courseOf log = e.course ∧ ∀ s ∈ signals, s.batch? = none := by
  unfold route
  by_cases hn : run.sampler.needsRouting snapshot.bridgeEpoch
  · simp only [hn, if_true, selectBridge]
    cases hr : Board.selectBridge snapshot.bridge e.board with
    | mk board result =>
        cases result with
        | ok u => exact ⟨board, _, _, rfl, by simp [course, EngineEvent.isCall], by simp⟩
        | error f =>
            exact ⟨board, _, _, rfl, by simp [course, EngineEvent.isCall],
              by simp [Signal.batch?]⟩
  · simp only [hn, if_false, Bool.false_eq_true]
    exact ⟨e.board, e.log, [], rfl, rfl, by simp⟩

/-- A due poll is made if a button is fitted, and publishes a transition at most. -/
theorem pollButton_eq (e : Engine β) (run : Run) :
    ∃ board button polled signals,
      e.pollButton run = ({ e with board := board, button := button }, polled, signals) ∧
      button.isSome = e.button.isSome ∧
      polled.isSome = (e.button.isSome && run.sampler.pollsButton) ∧
      ∀ s ∈ signals, s.batch? = none := by
  unfold pollButton
  cases hb : e.button with
  | none => exact ⟨e.board, e.button, none, [], rfl, by rw [hb], rfl, by simp⟩
  | some debouncer =>
      by_cases hp : run.sampler.pollsButton
      · simp only [hp, if_true]
        refine ⟨_, _, _, _, rfl, rfl, rfl, ?_⟩
        cases (debouncer.poll (Board.level e.board).2).2 <;> simp [Signal.batch?]
      · simp only [hp, if_false, Bool.false_eq_true]
        exact ⟨e.board, e.button, none, [], rfl, by rw [hb], by simp, by simp⟩

/-- The first half of a tick opens it on the snapshot of the store, and publishes no
batch. -/
theorem beginTick_eq (e : Engine β) (run : Run) (lag : Duration) :
    ∃ board button polled log signals,
      e.beginTick run lag =
        ({ e with
            board := board
            button := button
            run := some { run with
              sampler := run.sampler.observe e.store.snapshot.bridgeEpoch
              openTick := some ⟨e.store.snapshot, polled, lag⟩ }
            log := log }, signals) ∧
      button.isSome = e.button.isSome ∧
      polled.isSome = (e.button.isSome && run.sampler.pollsButton) ∧
      courseOf log = e.course ++ signals.map (.published run.stream) ∧
      ∀ s ∈ signals, s.batch? = none := by
  obtain ⟨board₁, log₁, routing, hroute, hlog₁, hrouting⟩ := route_eq e run e.store.snapshot
  obtain ⟨board₂, button, polled, polling, hpoll, hbutton, hpolled, hpolling⟩ :=
    pollButton_eq { e with board := board₁, log := log₁ }
      { run with sampler := run.sampler.observe e.store.snapshot.bridgeEpoch }
  obtain ⟨log, hemit, hlog⟩ := emit_eq run.stream (routing ++ polling)
    ({ e with
        board := board₂
        button := button
        run := some { run with
          sampler := run.sampler.observe e.store.snapshot.bridgeEpoch
          openTick := some ⟨e.store.snapshot, polled, lag⟩ }
        log := log₁ } : Engine β)
  -- Taking notice of the epoch does not move the tick, and so not the poll.
  have hobserve : ({ run with
      sampler := run.sampler.observe e.store.snapshot.bridgeEpoch } : Run).sampler.pollsButton =
      run.sampler.pollsButton := by
    simp only [Sampler.observe]
    split <;> rfl
  rw [hobserve] at hpolled
  refine ⟨board₂, button, polled, log.push (.reading e.config.readTimeout), routing ++ polling,
    ?_, hbutton, hpolled, ?_, ?_⟩
  · simp only [beginTick, hroute, hpoll, hemit, note]
  · rw [courseOf_push, hlog, course, hlog₁]
    simp [EngineEvent.isCall]
  · intro s hs
    rcases List.mem_append.mp hs with h | h
    · exact hrouting s h
    · exact hpolling s h

/-- The run after the first half of a tick is in the middle of it. -/
theorem beginTick_run (e : Engine β) (run : Run) (lag : Duration) :
    ∃ run' tick, (e.beginTick run lag).1.run = some run' ∧ run'.stream = run.stream ∧
      run'.openTick = some tick ∧ tick.snapshot = e.store.snapshot := by
  obtain ⟨board, button, polled, log, signals, heq, -⟩ := beginTick_eq e run lag
  rw [heq]
  exact ⟨_, _, rfl, rfl, rfl, rfl⟩

end Board

end Engine

end QuadDaq

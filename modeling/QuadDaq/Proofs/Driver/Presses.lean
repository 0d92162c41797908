import Mathlib.Data.List.Chain
import QuadDaq.Proofs.Driver.Engines
import QuadDaq.Proofs.Driver.Events
import QuadDaq.Proofs.Driver.History
import QuadDaq.Rig.Board

/-!
# The button counts for the life of a driver

**Transitions are numbered without a gap over all streams**, and consumers see them in the
order of their numbers (`NumbersTransitions`). Nothing that happens to a stream or to a
consumer starts the count over: a start takes the debouncing as the stream before left it,
and what a queue evicts or a stop discards keeps its number.
-/

namespace QuadDaq

namespace Transition

/-- The numbers of a button's changes. -/
theorem nth_counters (n : Nat) :
    ((List.range n).map nth).map Transition.counter = List.range' 1 n := by
  rw [List.map_map, List.range'_eq_map_range]
  refine List.map_congr_left fun i _ => ?_
  exact Nat.add_comm i 1

/-- Presses have odd numbers. -/
theorem nth_pressed (n : Nat) : (nth n).pressed = true ↔ (nth n).counter % 2 = 1 := by
  simp only [nth, beq_iff_eq]
  omega

theorem nth_succ_pressed (n : Nat) : (nth (n + 1)).pressed = !(nth n).pressed := by
  simp only [nth]
  rcases Nat.mod_two_eq_zero_or_one n with heven | hodd
  · simp [heven, Nat.add_mod]
  · simp [hodd, Nat.add_mod]

/-- Presses and releases take turns. -/
theorem nth_alternates (n : Nat) :
    ((List.range n).map nth).IsChain fun x y => y.pressed = !x.pressed := by
  rw [List.isChain_iff_getElem]
  intro i hi
  simp only [List.getElem_map, List.getElem_range]
  exact nth_succ_pressed i

end Transition

namespace Driver

variable {β : Type}

/-- What a driver publishes and delivers of its button, all streams together. -/
structure NumbersTransitions (d : Driver β) : Prop where
  /-- The published transitions carry the numbers 1, 2, 3 and so on. -/
  counters : d.engine.transitions.map (fun p => p.2.counter) =
    List.range' 1 d.engine.transitions.length
  pressed : ∀ p ∈ d.engine.transitions, p.2.pressed = true ↔ p.2.counter % 2 = 1
  /-- The first one is a press, -/
  first : ∀ p, d.engine.transitions.head? = some p → p.2.pressed = true
  /-- and from there on presses and releases take turns. -/
  alternating : d.engine.transitions.IsChain fun x y => y.2.pressed = !x.2.pressed
  /-- Published transitions are delivered in order, some of them not at all. -/
  delivered : d.delivery.deliveredTransitions.Sublist d.engine.transitions
  /-- None is delivered twice. -/
  increasing : d.delivery.deliveredTransitions.Pairwise fun x y => x.2.counter < y.2.counter

/-- Transitions that are counted from the start are numbered in order. -/
theorem numbersTransitions_of {d : Driver β} (h : d.engine.CountsPresses)
    (hdelivered : d.delivery.deliveredTransitions.Sublist d.engine.transitions) :
    d.NumbersTransitions := by
  have hlength : d.engine.transitions.length = d.engine.presses := by
    rw [← List.length_map (f := Prod.snd), h.transitions, List.length_map, List.length_range]
  have hcounters : d.engine.transitions.map (fun p => p.2.counter) =
      List.range' 1 d.engine.transitions.length := by
    rw [hlength, ← Transition.nth_counters, ← h.transitions, List.map_map]
    rfl
  have hnth : ∀ p ∈ d.engine.transitions, ∃ n, p.2 = Transition.nth n := by
    intro p hp
    have hmem : p.2 ∈ d.engine.transitions.map Prod.snd := List.mem_map_of_mem hp
    rw [h.transitions] at hmem
    obtain ⟨n, -, hn⟩ := List.mem_map.mp hmem
    exact ⟨n, hn.symm⟩
  refine ⟨hcounters, ?_, ?_, ?_, hdelivered, ?_⟩
  · intro p hp
    obtain ⟨n, hn⟩ := hnth p hp
    rw [hn]
    exact Transition.nth_pressed n
  · intro p hp
    have hhead : (d.engine.transitions.map Prod.snd).head? = some p.2 := by
      rw [List.head?_map, hp, Option.map_some]
    rw [h.transitions] at hhead
    cases hn : d.engine.presses with
    | zero => simp [hn] at hhead
    | succ n =>
        rw [hn, List.range_succ_eq_map, List.map_cons, List.head?_cons, Option.some.injEq] at hhead
        rw [← hhead]
        rfl
  · have hchain := Transition.nth_alternates d.engine.presses
    rw [← h.transitions, List.isChain_map] at hchain
    exact hchain
  · have hsorted : (d.engine.transitions.map fun p => p.2.counter).Pairwise (· < ·) := by
      rw [hcounters]
      exact List.pairwise_lt_range'
    rw [List.pairwise_map] at hsorted
    exact hsorted.sublist hdelivered

variable [Board β]

/-- Every command leaves the count in order. -/
theorem step_countsPresses {d : Driver β} (hd : d.Sound) (h : d.engine.CountsPresses)
    (command : Command β) : (d.step command).1.engine.CountsPresses := by
  -- Only ticks publish, and their second half publishes no transition.
  have hend : ∀ {d : Driver β} {run : Run} {tick : OpenTick}, d.engine.CountsPresses → d.Sound →
      d.engine.run = some run → run.openTick = some tick →
      (d.completeTick run tick).engine.CountsPresses := by
    intro d run tick h hd hrun hopen
    have hhalf := Engine.endTick_half hrun hopen hd.coherent.not_running
    refine h.of_frame (d.engine.endTick_signals run tick).2.1 ?_
    have hpublished := Engine.transitions_of_published hhalf.published
    rw [Engine.filterMap_transition?_endTick] at hpublished
    exact hpublished.trans (List.append_nil _)
  cases command with
  | start =>
      refine h.of_frame ?_ (congrArg (List.filterMap _) (start_uneventful hd).published)
      exact (congrArg Engine.button (start_engine d).1).trans (Engine.start_button d.engine)
  | stop =>
      refine h.of_frame ?_ (congrArg (List.filterMap _) (stop_uneventful hd).published)
      exact (congrArg Engine.button (stop_engine d).1).trans (Engine.stop_button hd.coherent)
  | tick lag =>
      simp only [step]
      rcases d.tick_cases lag with ⟨-, heq⟩ | ⟨run, run', tick, hready, hrun, hrun', -, hopen, -, heq⟩
      · rw [heq]
        exact h
      · have hbegun : (d.begun run lag).engine.CountsPresses :=
          Engine.beginTick_countsPresses h run lag
        have hmove : Move false d (d.begun run lag) := begun_move lag hready hrun
        rw [heq]
        split
        · exact hbegun
        · exact hend hbegun (hmove.sound hd) hrun' hopen
  | releaseRead =>
      simp only [step]
      rcases d.releaseRead_cases with ⟨run, tick, hrun, hopen, heq⟩ | ⟨-, heq⟩
      · have hmove : Move false d { d with readHeld := false } := .readHeld d false
        rw [heq]
        exact hend h (hmove.sound hd) hrun hopen
      · rw [heq]
        exact h
  | register kind consumer =>
      simp only [step, register]
      split <;> exact h
  | configure command =>
      simp only [step, configure, Engine.configure]
      split <;> exact h.of_frame rfl rfl
  | hold kind => exact h
  | unhold kind => exact h
  | release kind => exact h
  | finish stream kind => exact h
  | holdRead => exact h
  | disturb change => exact h.of_frame rfl rfl

/-- So does every run. -/
theorem Reachable.countsPresses {d : Driver β} (hd : d.Reachable) : d.engine.CountsPresses := by
  obtain ⟨plan, new, commands, hbuild, rfl⟩ := hd
  have hsound := sound_of_build hbuild
  have hnew : new.engine.CountsPresses := by
    obtain ⟨board, store, -, -, rfl⟩ := build_inv hbuild
    have hpresses : (plan.engine board store).presses = 0 := by
      simp only [Engine.presses, DriverPlan.engine]
      split <;> rfl
    refine ⟨?_, ?_⟩
    · rw [hpresses]
      rfl
    · rw [hpresses]
      simp only [Engine.isPressed, DriverPlan.engine]
      split <;> rfl
  clear hbuild
  induction commands generalizing new with
  | nil => exact hnew
  | cons command rest ih =>
      exact ih _ (hsound.after [command]) (step_countsPresses hsound hnew command)

/-- Wherever a driver is, its transitions are numbered over all its streams. -/
theorem transitions_numbered {d : Driver β} (hd : d.Reachable) : d.NumbersTransitions := by
  refine numbersTransitions_of hd.countsPresses ?_
  rw [← hd.sound.receivedTransitions_eq]
  exact (List.sublist_append_left _ _).trans hd.keepsTransitions.delivered

/-- A plan with a button that every tick polls; its level follows the list and then stays. -/
def pressing (levels : List Bool) : DriverPlan Rig.RiggedBoard where
  board := some { inner := .scripted {}, levels := levels }
  hasButton := true
  config := { batchRows := 2 }
  button := { pollMillis := 1, debounceCount := 1 }

/-- The driver that is built from it. -/
def pressingDriver (levels : List Bool) : Driver Rig.RiggedBoard where
  engine := (pressing levels).engine { inner := .scripted {}, levels := levels }
    (.ofShape (pressing levels).config.shape)

theorem pressing_build (levels : List Bool) :
    (pressing levels).build = .ok (pressingDriver levels) := by
  have hlimits : exceededLimit? (pressing levels).config (pressing levels).button = none := by
    simp only [pressing]
    decide
  simp only [DriverPlan.build, hlimits]
  rfl

/-- Two streams, of which the first is stopped while its button consumer is inside a call. -/
def presses : List (Command Rig.RiggedBoard) :=
  [.register .button "first", .start, .tick 0, .hold .button, .tick 0, .tick 0, .stop,
    .register .button "second", .configure (.setSampleRate 500), .start, .release .button, .tick 0]

theorem transitions_numbered_pressing :
    ((pressingDriver [true, false, true, false]).after presses).engine.transitions =
        [(1, ⟨true, 1⟩), (1, ⟨false, 2⟩), (1, ⟨true, 3⟩), (2, ⟨false, 4⟩)] ∧
      ((pressingDriver [true, false, true, false]).after presses).delivery.deliveredTransitions =
        [(1, ⟨true, 1⟩), (1, ⟨false, 2⟩), (2, ⟨false, 4⟩)] ∧
      ((pressingDriver [true, false, true, false]).after presses).NumbersTransitions :=
  ⟨by decide, by decide, transitions_numbered (.of_build (pressing_build _) _)⟩

end Driver

end QuadDaq

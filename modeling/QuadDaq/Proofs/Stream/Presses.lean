import QuadDaq.Proofs.Stream.Signals

/-!
# Transitions are numbered for the life of an engine

**All streams of an engine share one button.** Its debouncing goes from stream to stream
with the board, so the transitions that the streams publish are, taken together, the
changes of one level that starts released (`CountsPresses`).
-/

namespace QuadDaq

/-- The transition that is the change number `n` of a button, counted from zero. -/
def Transition.nth (n : Nat) : Transition := ⟨n % 2 == 0, n + 1⟩

namespace Engine

variable {β : Type} {e e' : Engine β}

/-- All published transitions, each with the number of its stream. -/
def transitions (e : Engine β) : List (Nat × Transition) :=
  e.published.filterMap fun p => p.2.transition?.map (Prod.mk p.1)

/-- The transitions among signals of one stream. -/
theorem transitions_map_mk (k : Nat) (signals : List Signal) :
    ((signals.map (Prod.mk k)).filterMap fun p => p.2.transition?.map (Prod.mk p.1)) =
      (signals.filterMap Signal.transition?).map (Prod.mk k) := by
  rw [List.filterMap_map, List.map_filterMap]
  rfl

theorem transitions_of_published {k : Nat} {signals : List Signal}
    (h : e'.published = e.published ++ signals.map (Prod.mk k)) :
    e'.transitions = e.transitions ++ (signals.filterMap Signal.transition?).map (Prod.mk k) := by
  rw [transitions, h, List.filterMap_append, transitions_map_mk, ← transitions]

/-- What a read brought is no transition. -/
theorem filterMap_transition?_signalsOf (s : Sampler) (result : TickResult) :
    (s.signalsOf result).filterMap Signal.transition? = [] := by
  have hreport : (reportOf result).filterMap Signal.transition? = [] := by
    cases result <;> simp [reportOf, Signal.transition?]
  rw [Sampler.signalsOf, List.filterMap_append, hreport, List.nil_append]
  cases (s.advance result).2 <;> simp [Signal.transition?]

/-- A report of the routing is no transition. -/
theorem Rerouted.filterMap_transition? {signals : List Signal} (h : Rerouted e signals e') :
    signals.filterMap Signal.transition? = [] := by
  cases h <;> rfl

/-- The published transitions are the changes of the button so far, and its accepted level is
that of the latest one. -/
structure CountsPresses (e : Engine β) : Prop where
  transitions : e.transitions.map Prod.snd = (List.range e.presses).map Transition.nth
  pressed : e.isPressed = (e.presses % 2 == 1)

theorem CountsPresses.of_frame (h : e.CountsPresses) (hbutton : e'.button = e.button)
    (htransitions : e'.transitions = e.transitions) : e'.CountsPresses := by
  have hpresses : e'.presses = e.presses := by rw [presses, hbutton, ← presses]
  have hpressed : e'.isPressed = e.isPressed := by rw [isPressed, hbutton, ← isPressed]
  exact ⟨by rw [htransitions, hpresses, h.transitions], by rw [hpressed, hpresses, h.pressed]⟩

/-- A transition that comes of a poll is the next change. -/
theorem CountsPresses.polled (h : e.CountsPresses) {k : Nat} {t? : Option Transition}
    (hpolled : Polled e t? e')
    (htransitions : e'.transitions = e.transitions ++ (t?.map (Prod.mk k)).toList) :
    e'.CountsPresses := by
  cases hpolled with
  | same hpressed hpresses =>
      rw [Option.map_none, Option.toList_none, List.append_nil] at htransitions
      exact ⟨by rw [htransitions, hpresses, h.transitions], by rw [hpressed, hpresses, h.pressed]⟩
  | changed hpressed hpresses =>
      refine ⟨?_, ?_⟩
      · rw [htransitions, hpresses, List.range_succ, List.map_append, List.map_append, h.transitions,
          h.pressed]
        have hnext : (!(e.presses % 2 == 1)) = (e.presses % 2 == 0) := by
          rcases Nat.mod_two_eq_zero_or_one e.presses with heven | hodd
          · simp [heven]
          · simp [hodd]
        rw [hnext]
        rfl
      · rw [hpressed, hpresses, h.pressed]
        rcases Nat.mod_two_eq_zero_or_one e.presses with heven | hodd
        · simp [heven, Nat.add_mod]
        · simp [hodd, Nat.add_mod]

/-- Only the first half of a tick does anything to the button. -/
theorem Change.button_cases (h : Change e e') :
    e'.button = e.button ∨
      (∃ run, e.run = some run ∧ run.openTick = none) ∧
        ∃ run, e'.run = some run ∧ run.openTick.isSome := by
  cases h with
  | opened _ hrun hclosed _ _ _ _ _ => exact .inr ⟨⟨_, hrun, hclosed⟩, _, rfl, rfl⟩
  | _ => exact .inl rfl

section Board

variable [Board β]

/-- The end of a tick publishes no transition. -/
theorem filterMap_transition?_endTick (e : Engine β) (run : Run) (tick : OpenTick) :
    (e.endTick run tick).2.filterMap Signal.transition? = [] := by
  obtain ⟨-, -, ⟨hsignals, -⟩ | ⟨result, late, hsignals, -⟩⟩ := e.endTick_signals run tick
  · rw [hsignals]
    rfl
  · rw [hsignals, filterMap_transition?_signalsOf]

theorem start_button (e : Engine β) : e.start.1.button = e.button := by
  rcases e.start_cases with ⟨-, heq⟩ | ⟨-, e', outcome, heq, -, hchange, -, hrun, -⟩ |
    ⟨-, -, board, log, -, heq⟩
  · rw [heq]
  · rw [heq]
    rcases hchange.button_cases with hsame | ⟨⟨run, hbefore, hclosed⟩, run', hafter, hopen⟩
    · exact hsame
    · obtain rfl : run = run' := Option.some.inj (hbefore.symm.trans (hrun.symm.trans hafter))
      simp [hclosed] at hopen
  · rw [heq]
    rfl

theorem stop_button (hc : e.Coherent) : e.stop.1.button = e.button := by
  by_cases hphase : e.phase = .running
  · obtain ⟨e', heq, hchange, -, -, hrun⟩ := stop_eq_of_running hc hphase
    rw [heq]
    rcases hchange.button_cases with hsame | ⟨⟨run, hbefore, hclosed⟩, run', hafter, -⟩
    · exact hsame
    · rcases hrun with hnone | ⟨run₁, hrun₁, hopen, -⟩
      · rw [hnone] at hafter
        cases hafter
      · obtain rfl : run = run₁ := Option.some.inj (hbefore.symm.trans hrun₁)
        simp [hclosed] at hopen
  · rw [stop_eq_of_ne hphase]

theorem beginTick_countsPresses (h : e.CountsPresses) (run : Run) (lag : Duration) :
    (e.beginTick run lag).1.CountsPresses := by
  obtain ⟨routing, t?, hsignals, hrouted, hpolled, -⟩ := beginTick_signals e run lag
  have hpublished : (e.beginTick run lag).1.published =
      e.published ++ (e.beginTick run lag).2.map (Prod.mk run.stream) := by
    obtain ⟨board, button, polled, log, signals, heq, -, -, hlog, -⟩ := beginTick_eq e run lag
    rw [heq]
    simp [published, course, hlog]
  refine h.polled hpolled (k := run.stream) ?_
  rw [transitions_of_published hpublished, hsignals, List.filterMap_append,
    hrouted.filterMap_transition?]
  cases t? <;> simp [Signal.transition?]

end Board

end Engine

end QuadDaq

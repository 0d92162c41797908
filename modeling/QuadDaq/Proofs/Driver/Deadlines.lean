import QuadDaq.Proofs.Driver.Lifecycle

/-!
# Waits that are too long

**Commands come to an end if the waits of a driver are representable.** How long a stop waits
follows from the read timeout and the tick rate. With four seconds to spare above the timeout
every such wait is a duration, so no command is broken off and no start is left halfway
(`replies_come`). Without them a start does not come back: the driver is neither stopped nor
running afterwards, and no command changes that (`start_of_endless`, `stays_starting`).
-/

namespace QuadDaq

/-- Waits of a stop are representable at any tick rate if there is room for four periods of the
slowest one. -/
theorem Pace.stopGrace?_isSome_of_le {readTimeout : Duration}
    (h : readTimeout + .millis 4000 ≤ Duration.longest) (hz : Nat) :
    (stopGrace? readTimeout hz).isSome = true :=
  stopGrace?_isSome (stopGrace?_isSome_iff.mpr h) hz

namespace Engine

variable {β : Type} [Board β]

/-- A start comes to an end, whatever the board does. -/
theorem start_ne_brokenOff {e : Engine β} (h : e.HasDeadlines) : e.start.2 ≠ .brokenOff := by
  by_cases hphase : e.phase = .stopped
  · obtain ⟨wait, hwait⟩ := Option.isSome_iff_exists.mp (h e.latestRate)
    obtain ⟨grace, hgrace⟩ := Option.isSome_iff_exists.mp (h e.store.shape.sampleRate)
    obtain ⟨board, log, result, harm, -⟩ := arm_eq e.attempted.retimed
    rw [start_eq e hphase, hwait]
    cases Custody.obstacle? e.custody with
    | some error => simp
    | none =>
        cases result with
        | error fault => simp [harm]
        | ok _ =>
            have hgrace : Pace.stopGrace? e.attempted.retimed.config.readTimeout
                e.attempted.retimed.latestRate = some grace := hgrace
            simp [harm, hgrace]
  · simp [start, if_pos hphase]

/-- Only a start that is broken off leaves the engine starting. -/
theorem start_phase_ne_starting {e : Engine β} (hphase : e.phase ≠ .starting)
    (h : e.start.2 ≠ .brokenOff) : e.start.1.phase ≠ .starting := by
  have hends := e.start_ends
  generalize e.start = ending at hends h ⊢
  cases hends with
  | denied _ => exact hphase
  | unwaitable _ => exact absurd rfl h
  | brokenOff _ _ _ => exact absurd rfl h
  | obstructed _ _ => simp [abandonStart]
  | unarmed _ _ _ => simp [abandonStart]
  | launched _ _ _ => simp [launch]

/-- A start that would have to wait too long for the latest stream gets no further than that. -/
theorem start_of_endless {e : Engine β} (hphase : e.phase = .stopped)
    (h : Duration.longest < e.config.readTimeout + Pace.period e.latestRate * 4) :
    e.start = (e.attempted, .brokenOff) := by
  have hnone : Pace.stopGrace? e.config.readTimeout e.latestRate = none := by
    rw [← Option.not_isSome_iff_eq_none, Pace.stopGrace?_isSome_iff]
    exact Nat.not_le.mpr h
  rw [start_eq e hphase, hnone]

end Engine

namespace Driver

variable {β : Type} [Board β]

/-- Only starts and stops change whether a stream runs and whether the shape can be written, and
only starts are broken off. -/
theorem step_keeps_phase (d : Driver β) {command : Command β} (hstart : command ≠ .start)
    (hstop : command ≠ .stop) :
    (d.step command).1.engine.phase = d.engine.phase ∧
      (d.step command).1.engine.store.frozen = d.engine.store.frozen ∧
      (d.step command).2 ≠ .outcome .brokenOff := by
  cases command with
  | start => exact absurd rfl hstart
  | stop => exact absurd rfl hstop
  | tick lag =>
      have hkeeps := d.tick_keeps lag
      exact ⟨hkeeps.phase, congrArg _ hkeeps.store, by simp [step]⟩
  | releaseRead =>
      have hkeeps := d.releaseRead_keeps
      exact ⟨hkeeps.phase, congrArg _ hkeeps.store, by simp [step]⟩
  | register kind consumer =>
      simp only [step, Driver.register]
      split <;> exact ⟨rfl, rfl, by simp⟩
  | configure command =>
      simp only [step]
      cases hrun : command.run d.engine.store with
      | ok store =>
          rw [configure_of_ok hrun]
          exact ⟨rfl, Settings.Command.run_frozen hrun, by simp⟩
      | error refusal =>
          rw [configure_of_error hrun]
          exact ⟨rfl, rfl, by simp⟩
  | hold kind => exact ⟨rfl, rfl, by simp [step]⟩
  | unhold kind => exact ⟨rfl, rfl, by simp [step]⟩
  | release kind => exact ⟨rfl, rfl, by simp [step]⟩
  | finish stream kind => exact ⟨rfl, rfl, by simp [step]⟩
  | holdRead => exact ⟨rfl, rfl, by simp [step]⟩
  | disturb change => exact ⟨rfl, rfl, by simp [step]⟩

/-! ### Waits that are representable -/

/-- A command comes to an end and does not leave the driver starting. -/
theorem step_replies {d : Driver β} (h : d.engine.HasDeadlines)
    (hphase : d.engine.phase ≠ .starting) (command : Command β) :
    (d.step command).2 ≠ .outcome .brokenOff ∧ (d.step command).1.engine.phase ≠ .starting := by
  by_cases hstart : command = .start
  · subst hstart
    have hdone := Engine.start_ne_brokenOff h
    simp only [step, d.start_engine.1, d.start_engine.2, ne_eq, Reply.outcome.injEq]
    exact ⟨hdone, Engine.start_phase_ne_starting hphase hdone⟩
  by_cases hstop : command = .stop
  · subst hstop
    simp only [step, d.stop_engine.1, d.stop_engine.2, ne_eq, Reply.outcome.injEq]
    unfold Engine.stop
    split
    · simp
    · exact ⟨by simp, hphase⟩
  · obtain ⟨hkept, -, hreply⟩ := d.step_keeps_phase hstart hstop
    exact ⟨hreply, hkept ▸ hphase⟩

/-- With room for four seconds above the read timeout every command comes to an end, and no start
is left halfway. -/
theorem replies_come {plan : DriverPlan β} {new : Driver β} (hbuild : plan.build = .ok new)
    (h : plan.config.readTimeout + .millis 4000 ≤ Duration.longest) (commands : List (Command β)) :
    (∀ reply ∈ (new.runAll commands).2, reply ≠ .outcome .brokenOff) ∧
      (new.after commands).engine.phase ≠ .starting := by
  obtain ⟨board, store, -, -, heq⟩ := build_inv hbuild
  have hnew : new.Sound ∧ new.engine.HasDeadlines ∧ new.engine.phase ≠ .starting := by
    refine ⟨sound_of_build hbuild, ?_, ?_⟩
    · rw [heq]
      exact Pace.stopGrace?_isSome_of_le h
    · rw [heq]
      simp [DriverPlan.engine]
  clear heq hbuild
  induction commands generalizing new with
  | nil => exact ⟨by simp [runAll], hnew.2.2⟩
  | cons command rest ih =>
      obtain ⟨hd, hdeadlines, hphase⟩ := hnew
      obtain ⟨hreply, hphase'⟩ := step_replies hdeadlines hphase command
      have hdeadlines' := hdeadlines.of_config (config_after hd [command])
      obtain ⟨hreplies, hlast⟩ := ih ⟨hd.after [command], hdeadlines', hphase'⟩
      exact ⟨List.forall_mem_cons.mpr ⟨hreply, hreplies⟩, hlast⟩

/-! ### Waits that are not -/

/-- No command brings a driver back that was left starting, or releases its shape. -/
theorem stays_starting (commands : List (Command β)) : ∀ {d : Driver β},
    d.engine.phase = .starting →
      (d.after commands).engine.phase = .starting ∧
        (d.after commands).engine.store.frozen = d.engine.store.frozen := by
  induction commands with
  | nil => exact fun hphase => ⟨hphase, rfl⟩
  | cons command rest ih =>
      intro d hphase
      suffices h : (d.step command).1.engine.phase = .starting ∧
          (d.step command).1.engine.store.frozen = d.engine.store.frozen from
        ⟨(ih h.1).1, (ih h.1).2.trans h.2⟩
      by_cases hstart : command = .start
      · subst hstart
        have hrefused : d.engine.start = (d.engine, .refused .alreadyRunning) := by
          rw [Engine.start, if_pos (by simp [hphase])]
        simp only [step, d.start_engine.1, hrefused]
        exact ⟨hphase, trivial⟩
      by_cases hstop : command = .stop
      · subst hstop
        simp only [step, d.stop_engine.1, Engine.stop_eq_of_ne (e := d.engine) (by simp [hphase])]
        exact ⟨hphase, trivial⟩
      · obtain ⟨hkept, hfrozen, -⟩ := d.step_keeps_phase hstart hstop
        exact ⟨hkept.trans hphase, hfrozen⟩

/-- The limits of a driver do not exclude this, and its first start is broken off for good. -/
theorem starting_for_good : ∃ new, endless.build = .ok new ∧ new.start.2 = .brokenOff ∧
    ∀ commands, (new.start.1.after commands).engine.phase = .starting ∧
      (new.start.1.after commands).engine.store.frozen = true := by
  refine ⟨_, rfl, rfl, fun commands => ?_⟩
  exact stays_starting commands rfl

end Driver

end QuadDaq

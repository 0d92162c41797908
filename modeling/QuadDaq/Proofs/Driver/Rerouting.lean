import QuadDaq.Proofs.Driver.Routing
import QuadDaq.Proofs.Stream.Measuring
import QuadDaq.Proofs.Stream.Rerouting
import QuadDaq.Proofs.Stream.Signals

/-!
# Rows after a failure to route the bridge

**A failure to route the bridge is reported, and delays the rows by the settling time only**
(`attempts_precede_rows`). Every row was read when the latest attempt to route the bridge had
been for the bridge of its snapshot. If that attempt failed, the stream has gone through its
settling time in between, but nothing has tried it again: the epoch counts as seen all the
same. So rows of a wrong routing follow sooner or later (`row_after_failed_attempt`).
-/

namespace QuadDaq.Driver

variable {β : Type} [Board β]

/-! ### Failures are answered -/

/-- What an attempt in the middle of a stream leads to is noted with it. -/
theorem beginTick_answered {e : Engine β} (h : Answered e.events) (run : Run) (lag : Duration) :
    Answered (e.beginTick run lag).1.events := by
  obtain ⟨routing, rest, hroutes, hasides, hevents⟩ := e.beginTick_events run lag
  have hrest : Answered rest := answered_of_unselected fun event hevent =>
    EngineEvent.isSelect_of_isAside (hasides event hevent)
  rw [hevents]
  exact h.append (hroutes.answered.append hrest)

theorem endTick_answered {e : Engine β} (h : Answered e.events) (run : Run) (tick : OpenTick) :
    Answered (e.endTick run tick).1.events := by
  cases e.endTick_ends run tick with
  | crashed hasides hevents _ =>
      rw [hevents]
      exact h.append (answered_of_unselected fun event hevent =>
        EngineEvent.isSelect_of_isAside (hasides event hevent))
  | completed _ hasides hevents _ =>
      rw [hevents]
      exact h.append (answered_of_unselected (List.forall_mem_cons.mpr
        ⟨rfl, fun event hevent => EngineEvent.isSelect_of_isAside (hasides event hevent)⟩))

theorem start_answered {e : Engine β} (h : Answered e.events) : Answered e.start.1.events := by
  rcases e.start_events with ⟨e', outcome, heq, -, hevents⟩ |
    ⟨e', outcome, result, added, heq, -, -, harms, hevents⟩ | ⟨board, log, heq, hlog⟩
  · rw [heq, hevents]
    exact h
  · rw [heq, hevents]
    exact h.append harms.answered
  · have hevents : (e.started board log).events = _ := hlog
    rw [heq, hevents]
    exact h.append (Engine.Arms.armed (b := e.store.snapshot.bridge)).answered

/-- Every command answers the failures that it meets. -/
theorem step_answered {d : Driver β} (h : Answered d.engine.events) (command : Command β) :
    Answered (d.step command).1.engine.events := by
  cases command with
  | start =>
      rw [step, d.start_engine.1]
      exact start_answered h
  | stop =>
      obtain ⟨rest, hasides, hevents, -⟩ := d.engine.stop_events
      rw [step, d.stop_engine.1, hevents]
      exact h.append (answered_of_unselected fun event hevent =>
        EngineEvent.isSelect_of_isAside (hasides event hevent))
  | tick lag =>
      simp only [step]
      rcases d.tick_cases lag with ⟨-, heq⟩ | ⟨run, run', tick, -, -, -, -, -, -, heq⟩
      · rw [heq]
        exact h
      · have hbegun : Answered (d.begun run lag).engine.events := beginTick_answered h run lag
        rw [heq]
        split
        · exact hbegun
        · exact endTick_answered hbegun run' tick
  | releaseRead =>
      simp only [step]
      rcases d.releaseRead_cases with ⟨run, tick, -, -, heq⟩ | ⟨-, heq⟩
      · rw [heq]
        exact endTick_answered h run tick
      · rw [heq]
        exact h
  | register kind consumer =>
      simp only [step, register]
      split <;> exact h
  | configure command =>
      simp only [step, configure, Engine.configure]
      split <;> exact h
  | hold kind => exact h
  | unhold kind => exact h
  | release kind => exact h
  | finish stream kind => exact h
  | holdRead => exact h
  | disturb change => exact h

theorem answered_after {d : Driver β} (h : Answered d.engine.events)
    (commands : List (Command β)) : Answered (d.after commands).engine.events := by
  induction commands generalizing d with
  | nil => exact h
  | cons command rest ih => exact ih (step_answered h command)

/-! ### Streams are steered -/

theorem start_steered {d : Driver β} (hd : d.Sound) {pending : Nat}
    (h : d.engine.Steered pending) :
    ∃ pending' ≤ pending, d.start.1.engine.Steered pending' := by
  have hconfig := config_eq_of_changes (changes_after hd [.start])
  simp only [after_cons, after_nil, step] at hconfig
  rw [d.start_engine.1] at hconfig ⊢
  rcases d.engine.start_events with ⟨e', outcome, heq, hrun, hevents⟩ |
    ⟨e', outcome, result, added, heq, hparked, hrun, harms, hevents⟩ | ⟨board, log, heq, hlog⟩
  · have hsnapshot := d.engine.start_snapshot
    rw [heq] at hconfig hsnapshot ⊢
    exact ⟨pending, Nat.le_refl _, h.of_same hconfig hrun hsnapshot hevents⟩
  · -- No stream has the board, and the start gives it to none.
    rw [heq] at hconfig ⊢
    refine ⟨pending, Nat.le_refl _, h.of_idle hconfig ?_ hevents harms.unticked pending⟩
    exact hrun.trans (hd.coherent.run_eq_none hparked)
  · rw [heq]
    exact ⟨0, Nat.zero_le _, h.started hlog⟩

theorem completeTick_steered {d : Driver β} {pending : Nat} (h : d.engine.Steered pending)
    {run : Run} {tick : OpenTick} (hrun : d.engine.run = some run)
    (hopen : run.openTick = some tick) : (d.completeTick run tick).engine.Steered pending :=
  h.endTick hrun hopen

/-- A command leaves the stream steered. -/
theorem step_steered {d : Driver β} (hd : d.Sound) {pending : Nat} (h : d.engine.Steered pending)
    (hpending : pending < 2 ^ 64) (command : Command β) :
    ∃ pending' ≤ if (d.snapshotAt? command).isSome then 0
        else pending + (d.selectionAt? command).toList.length,
      (d.step command).1.engine.Steered pending' := by
  have hsame : ∀ {d' : Driver β}, d'.engine.config = d.engine.config →
      d'.engine.run = d.engine.run → d'.engine.store.snapshot = d.engine.store.snapshot →
      d'.engine.events = d.engine.events →
      ∃ pending' ≤ pending + 0, d'.engine.Steered pending' :=
    fun hconfig hrun hsnapshot hevents =>
      ⟨pending, Nat.le_refl _, h.of_same hconfig hrun hsnapshot hevents⟩
  cases command with
  | start => exact start_steered hd h
  | stop =>
      have hconfig := config_eq_of_changes (changes_after hd [.stop])
      simp only [after_cons, after_nil, step] at hconfig ⊢
      obtain ⟨rest, hasides, hevents, hrun⟩ := d.engine.stop_events
      rw [d.stop_engine.1] at hconfig ⊢
      exact ⟨pending, Nat.le_refl _,
        h.of_asides hconfig hrun d.engine.stop_snapshot hevents hasides⟩
  | tick lag =>
      simp only [step]
      rcases d.tick_cases lag with ⟨hready, heq⟩ |
        ⟨run, run', tick, hready, hrun, hrun', -, hopen, -, heq⟩
      · rw [heq, snapshotAt?, if_neg hready]
        exact hsame rfl rfl rfl rfl
      · have hbegun : (d.begun run lag).engine.Steered 0 := h.beginTick hpending hrun lag
        rw [heq]
        refine ⟨0, Nat.zero_le _, ?_⟩
        split
        · exact hbegun
        · exact completeTick_steered hbegun hrun' hopen
  | releaseRead =>
      simp only [step]
      rcases d.releaseRead_cases with ⟨run, tick, hrun, hopen, heq⟩ | ⟨-, heq⟩
      · rw [heq]
        exact ⟨pending, Nat.le_refl _,
          completeTick_steered (d := { d with readHeld := false }) h hrun hopen⟩
      · rw [heq]
        exact hsame rfl rfl rfl rfl
  | register kind consumer =>
      refine ⟨pending, Nat.le_refl _, ?_⟩
      simp only [step, register]
      split <;> exact h.of_same rfl rfl rfl rfl
  | configure command =>
      refine ⟨_, Nat.le_refl _, ?_⟩
      simp only [step, configure, Engine.configure, snapshotAt?, selectionAt?]
      cases hwrote : command.run d.engine.store with
      | ok store => exact h.wrote hwrote
      | error refusal =>
          rw [Settings.Command.selected?_of_error hwrote]
          exact h
  | hold kind => exact hsame rfl rfl rfl rfl
  | unhold kind => exact hsame rfl rfl rfl rfl
  | release kind => exact hsame rfl rfl rfl rfl
  | finish stream kind => exact hsame rfl rfl rfl rfl
  | holdRead => exact hsame rfl rfl rfl rfl
  | disturb change => exact hsame rfl rfl rfl rfl

theorem steered_after (commands : List (Command β)) :
    ∀ {d : Driver β} {pending : Nat}, d.Sound → d.engine.Steered pending →
      d.HasRoom pending commands → d.SelectsSparsely commands →
      ∃ pending', (d.after commands).engine.Steered pending' := by
  induction commands with
  | nil => exact fun _ h _ _ => ⟨_, h⟩
  | cons command rest ih =>
      intro d pending hd h hroom hsparse
      have hpending : pending < 2 ^ 64 := hroom [] (command :: rest) rfl rfl
      obtain ⟨pending', hle, h'⟩ := step_steered hd h hpending command
      exact ih (hd.after [command]) h' (hroom.after_step hsparse hle) hsparse.of_cons

/-! ### Rows -/

/-- In every run of a driver, whatever the board does, a failure to route the bridge is reported
at once or fails the start that it belongs to. Every row was read when the latest attempt had
been for the bridge of its snapshot, and had succeeded or lay the settling time back. -/
theorem attempts_precede_rows {plan : DriverPlan β} {new : Driver β}
    (hbuild : plan.build = .ok new) (commands : List (Command β)) :
    Answered (new.after commands).engine.events ∧
      (new.SelectsSparsely commands →
        RowsAttempted plan.config.settlingTicks (new.after commands).engine.events) := by
  have hsound := sound_of_build hbuild
  obtain ⟨board, store, -, -, hnew⟩ := build_inv hbuild
  have hevents : new.engine.events = [] := by
    rw [hnew]
    rfl
  have hrun : new.engine.run = none := by
    rw [hnew]
    rfl
  have hconfig : new.engine.config = plan.config := by
    rw [hnew]
    rfl
  constructor
  · exact answered_after (by rw [hevents]; exact answered_of_unselected (by simp)) commands
  · intro hsparse
    have hsteered : new.engine.Steered 0 := by
      refine ⟨by simp [hrun], by simp [hrun], ?_⟩
      intro before k r after heq
      rw [hevents] at heq
      simp at heq
    obtain ⟨pending, h⟩ := steered_after commands hsound hsteered hsparse.hasRoom hsparse
    rw [← hconfig, ← config_eq_of_changes (changes_after hsound commands)]
    exact h.rows

/-- A plan whose board can be routed once. It settles for one tick, and guards no other. -/
def sticking : DriverPlan Board.Tripping where
  board := some
    { inner := { script := [.ok (PerChannel.uniform 0.0)] }
      routes := [none, some (.other "bridge stuck")] }
  config := { batchRows := 1, settlingTicks := 1, startupDiscard := 0 }

/-- The driver that is built from it. -/
def stickingDriver : Driver Board.Tripping where
  engine := sticking.engine
    { inner := { script := [.ok (PerChannel.uniform 0.0)] }
      routes := [none, some (.other "bridge stuck")] }
    (.ofShape sticking.config.shape)

/-- A stream whose board does not follow a selection. -/
def stuck : List (Command Board.Tripping) :=
  [.configure (.preset .identity), .start, .configure (.setBridge 1), .tick 0, .tick 0, .stop]

theorem attempts_precede_rows_sticking :
    sticking.build = .ok stickingDriver ∧ stickingDriver.SelectsSparsely stuck ∧
      Answered (stickingDriver.after stuck).engine.events ∧
      RowsAttempted 1 (stickingDriver.after stuck).engine.events := by
  have hsparse : stickingDriver.SelectsSparsely stuck := .of_length (by decide)
  obtain ⟨hanswered, hrows⟩ :=
    attempts_precede_rows (rfl : sticking.build = .ok stickingDriver) stuck
  exact ⟨rfl, hsparse, hanswered, hrows hsparse⟩

/-- The selection of the second bridge fails and is not tried again. The tick after the settling
time brings a row although the board is routed for the first bridge. -/
theorem row_after_failed_attempt :
    ((stickingDriver.after stuck).engine.ticksOf 1).map
        (fun r => (r.snapshot.bridge, r.result.isRow)) = [(.on, false), (.on, true)] ∧
      (stickingDriver.after stuck).engine.events.filterMap
        (fun | .select b success => some (b, success) | _ => none) =
          [(.off, true), (.on, false)] ∧
      (stickingDriver.after stuck).engine.published.filterMap (fun p => p.2.report?) =
        [(.acquisitionFault, "acquisition fault: bridge stuck")] := by
  decide

end QuadDaq.Driver

import QuadDaq.Proofs.Stream.Signals

/-!
# What ticks report is counted

**A tick reports exactly the failures that it counts**: an incomplete calibration, a failed
read, or a bridge that was not routed (`beginTick_occasions`, `endTick_occasions`). Starts and
stops report nothing.
-/

namespace QuadDaq

/-- What a tick brought is counted if and only if it is reported. -/
theorem TickCounters.add_reports (c : TickCounters) (result : TickResult) :
    ∃ faults incomplete, (c.add result).faults = c.faults + faults ∧
      (c.add result).incomplete = c.incomplete + incomplete ∧
      ∀ code, ((Engine.reportOf result).filterMap Signal.report?).countP (fun r => r.1 = code) =
        match code with
        | .acquisitionFault => faults
        | .configurationIncomplete => incomplete
        | .batchOverrun | .eventOverrun => 0 := by
  cases result with
  | fault f => exact ⟨1, 0, rfl, rfl, fun code => by cases code <;> rfl⟩
  | discarded => exact ⟨0, 0, rfl, rfl, fun code => by cases code <;> rfl⟩
  | incomplete m => exact ⟨0, 1, rfl, rfl, fun code => by cases code <;> rfl⟩
  | row r => exact ⟨0, 0, rfl, rfl, fun code => by cases code <;> rfl⟩

namespace Engine

variable {β : Type} {e e' : Engine β}

/-- How often something happened on the sampling side that is reported with this code. Calls
that failed to route the bridge have no counter of their own. -/
def occasions (e : Engine β) : ErrorCode → Nat
  | .acquisitionFault => e.counters.faults + e.failedSelects
  | .configurationIncomplete => e.counters.incomplete
  | .batchOverrun | .eventOverrun => 0

theorem occasions_congr (hcounters : e'.counters = e.counters)
    (hselects : e'.failedSelects = e.failedSelects) (code : ErrorCode) :
    e'.occasions code = e.occasions code := by
  cases code <;> simp only [occasions, hcounters, hselects]

section Board

variable [Board β]

theorem beginTick_occasions (e : Engine β) (run : Run) (lag : Duration) (code : ErrorCode) :
    (e.beginTick run lag).1.occasions code = e.occasions code +
      ((e.beginTick run lag).2.filterMap Signal.report?).countP fun r => r.1 = code := by
  obtain ⟨routing, t?, hsignals, hrouted, -, hcounters⟩ := e.beginTick_signals run lag
  have hnone : (t?.map Signal.transition).toList.filterMap Signal.report? = [] := by
    cases t? <;> rfl
  rw [hsignals, List.filterMap_append, hnone, List.append_nil]
  cases hrouted with
  | silent hselects => exact occasions_congr hcounters hselects code
  | failed message hselects =>
      simp only [List.filterMap_cons, List.filterMap_nil, Signal.report?, List.countP_singleton]
      cases code <;> simp [occasions, hcounters, hselects, Nat.add_assoc]

theorem endTick_occasions (e : Engine β) (run : Run) (tick : OpenTick) (code : ErrorCode) :
    (e.endTick run tick).1.occasions code = e.occasions code +
      ((e.endTick run tick).2.filterMap Signal.report?).countP fun r => r.1 = code := by
  obtain ⟨hselects, -, hcases⟩ := e.endTick_signals run tick
  rcases hcases with ⟨hsignals, hcounters⟩ | ⟨result, late, hsignals, hcounters⟩
  · rw [hsignals]
    exact occasions_congr hcounters hselects code
  · have hnone : ((run.sampler.advance result).2.map Signal.batch).toList.filterMap
        Signal.report? = [] := by
      cases (run.sampler.advance result).2 <;> rfl
    rw [hsignals, Sampler.signalsOf, List.filterMap_append, hnone, List.append_nil]
    obtain ⟨faults, incomplete, hfaults, hincomplete, hreports⟩ := e.counters.add_reports result
    rw [hreports]
    cases code with
    | acquisitionFault =>
        simp only [occasions, hcounters, hselects, TickCounters.settled, hfaults]
        exact Nat.add_right_comm _ _ _
    | configurationIncomplete =>
        simp only [occasions, hcounters, TickCounters.settled, hincomplete]
    | batchOverrun => rfl
    | eventOverrun => rfl

/-- Whatever becomes of a start, it is an attempt unless it is refused outright. -/
theorem start_attempts (hphase : e.phase = .stopped) : e.start.1.attempts = e.attempts + 1 := by
  obtain ⟨board, log, result, harm', -⟩ := arm_eq e.attempted.retimed
  have hends := e.start_ends
  generalize e.start = ending at hends ⊢
  cases hends with
  | denied hne => exact absurd hphase hne
  | unwaitable _ => rfl
  | obstructed _ _ => rfl
  | unarmed _ _ harm =>
      cases harm.symm.trans harm'
      rfl
  | brokenOff _ _ harm =>
      cases harm.symm.trans harm'
      rfl
  | launched _ _ harm =>
      cases harm.symm.trans harm'
      rfl

theorem stop_occasions (e : Engine β) (code : ErrorCode) :
    e.stop.1.occasions code = e.occasions code := by
  unfold stop
  split
  · next run _ _ =>
      have hcounters : (e.endRun run .lost).counters = e.counters := rfl
      have hended : (e.endRun run .lost).occasions code = e.occasions code :=
        occasions_congr hcounters (endRun_failedSelects e run .lost) code
      have hcounters' : (e.handBack run).counters = e.counters := rfl
      have hback : (e.handBack run).occasions code = e.occasions code :=
        occasions_congr hcounters' (handBack_failedSelects e run) code
      by_cases hcrashed : run.crashed
      · rw [if_pos hcrashed]
        exact hended
      · rw [if_neg hcrashed]
        by_cases hopen : run.openTick.isSome
        · rw [if_pos hopen]
          rfl
        · rw [if_neg hopen]
          exact hback
  · rfl

end Board

end Engine

end QuadDaq

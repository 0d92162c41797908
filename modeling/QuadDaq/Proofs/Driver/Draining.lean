import QuadDaq.Proofs.Delivery.Draining
import QuadDaq.Proofs.Driver.Runs

/-!
# Runs drain what the consumer has room for

**Between two commands, batches wait only while the data worker is inside a call**
(`drained_after`). Commands that publish or end a call run the workers last; the others
touch neither the queue nor the call of the current outlet.
-/

namespace QuadDaq.Driver

variable {β : Type} [Board β]

theorem completeTick_drained {d : Driver β} (hd : d.Sound) {run : Run} {tick : OpenTick}
    (hrun : d.engine.run = some run) (hopen : run.openTick = some tick) :
    (d.completeTick run tick).delivery.Drained := by
  have hhalf := Engine.endTick_half hrun hopen hd.coherent.not_running
  have hended : Move false d _ := .ticked hrun hhalf
  exact Delivery.deliver_drained (hended.sound hd).delivery.tidy

theorem tick_drained {d : Driver β} (hd : d.Sound) (hdrained : d.delivery.Drained)
    (lag : Duration) : (d.tick lag).1.delivery.Drained := by
  rcases d.tick_cases lag with ⟨-, heq⟩ | ⟨run, run', tick, hready, hrun, hrun', -, hopen, -, heq⟩
  · rw [heq]
    exact hdrained
  · have hbegun : Move false d (d.begun run lag) := begun_move lag hready hrun
    rw [heq]
    by_cases hheld : d.readHeld
    · rw [if_pos hheld]
      exact Delivery.deliver_drained (hbegun.sound hd).delivery.tidy
    · rw [if_neg hheld]
      exact completeTick_drained (hbegun.sound hd) hrun' hopen

theorem step_drained {d : Driver β} (hd : d.Sound) (hdrained : d.delivery.Drained)
    (command : Command β) : (d.step command).1.delivery.Drained := by
  cases command with
  | start =>
      simp only [step]
      rcases d.start_delivery_cases with heq | ⟨k, capacity, heq⟩
      · rw [heq]
        exact hdrained
      · -- Nothing waits in an outlet that has just opened.
        rw [heq]
        intro o ho _
        rw [← Option.some.inj ho]
        rfl
  | stop =>
      simp only [step]
      rcases d.stop_delivery_cases with heq | heq
      · rw [heq]
        exact hdrained
      · rw [heq]
        intro o ho
        rw [Delivery.closeStream_current] at ho
        cases ho
  | tick lag => exact tick_drained hd hdrained lag
  | register kind consumer =>
      simp only [step, register]
      split
      · exact hdrained
      · exact hdrained
  | configure command => exact hdrained
  | hold kind => exact hdrained
  | unhold kind => exact hdrained
  | release kind =>
      have hunheld : (d.delivery.unhold kind).Tidy :=
        ⟨hd.delivery.tidy.current, hd.delivery.tidy.retired⟩
      exact Delivery.endCalls_drained hunheld (fun _ => true) kind
  | finish stream kind => exact Delivery.endCalls_drained hd.delivery.tidy (· == stream) kind
  | holdRead => exact hdrained
  | releaseRead =>
      have hreturns : Move false d { d with readHeld := false } := .readHeld d false
      simp only [step]
      rcases d.releaseRead_cases with ⟨run, tick, hrun, hopen, heq⟩ | ⟨-, heq⟩
      · rw [heq]
        exact completeTick_drained (hreturns.sound hd) hrun hopen
      · rw [heq]
        exact hdrained
  | disturb change => exact hdrained

/-- Batches wait only while the data worker is inside a call. -/
theorem drained_after (commands : List (Command β)) :
    ∀ {d : Driver β}, d.Sound → d.delivery.Drained → (d.after commands).delivery.Drained := by
  induction commands with
  | nil => exact fun _ hdrained => hdrained
  | cons command rest ih =>
      intro d hd hdrained
      exact ih (hd.after [command]) (step_drained hd hdrained command)

end QuadDaq.Driver

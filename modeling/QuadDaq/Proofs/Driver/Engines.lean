import QuadDaq.Proofs.Driver.Moves
import QuadDaq.Proofs.Stream.Calls

/-!
# The engine of a driver

What the commands of a driver make of its engine, and of the store in it.
-/

namespace QuadDaq.Driver

variable {β : Type}

theorem configure_of_ok {d : Driver β} {command : Settings.Command} {store : Settings.Store}
    (h : command.run d.engine.store = .ok store) :
    d.configure command = ({ d with engine := { d.engine with store := store } }, .done) := by
  simp only [configure, Engine.configure, h]

theorem configure_of_error {d : Driver β} {command : Settings.Command} {refusal : Settings.Refusal}
    (h : command.run d.engine.store = .error refusal) :
    d.configure command = (d, .refused (.invalidArgument refusal.message)) := by
  simp only [configure, Engine.configure, h]

variable [Board β]

theorem start_engine (d : Driver β) :
    d.start.1.engine = d.engine.start.1 ∧ d.start.2 = d.engine.start.2 := by
  unfold start
  rcases d.engine.start with ⟨e, outcome⟩
  cases outcome <;> exact ⟨rfl, rfl⟩

theorem stop_engine (d : Driver β) :
    d.stop.1.engine = d.engine.stop.1 ∧ d.stop.2 = d.engine.stop.2 := by
  unfold stop
  rcases d.engine.stop with ⟨e, outcome⟩
  cases outcome <;> exact ⟨rfl, rfl⟩

theorem tick_keeps (d : Driver β) (lag : Duration) :
    d.engine.TickFrame (d.tick lag).1.engine := by
  have hbegun : ∀ run, d.engine.TickFrame (d.begun run lag).engine := by
    intro run
    obtain ⟨board, button, polled, log, signals, heq, -⟩ := d.engine.beginTick_eq run lag
    rw [begun, heq]
    exact ⟨rfl, rfl, rfl⟩
  rcases d.tick_cases lag with ⟨-, heq⟩ | ⟨run, run', tick, -, -, -, -, -, -, heq⟩
  · rw [heq]
    exact ⟨rfl, rfl, rfl⟩
  · rw [heq]
    split
    · exact hbegun run
    · exact (hbegun run).trans ((d.begun run lag).engine.endTick_keeps run' tick)

theorem releaseRead_keeps (d : Driver β) : d.engine.TickFrame d.releaseRead.engine := by
  rcases d.releaseRead_cases with ⟨run, tick, -, -, heq⟩ | ⟨-, heq⟩
  · rw [heq]
    exact d.engine.endTick_keeps run tick
  · rw [heq]
    exact ⟨rfl, rfl, rfl⟩

end QuadDaq.Driver

import QuadDaq.Proofs.Driver.History
import QuadDaq.Proofs.Driver.Prompt

/-!
# The streams of a driver

**What a start begins, wherever the driver is afterwards.** The stream that a start begins
is `nextStream`. From there on the engine does with its ticks what the sampler does that
was started with the settings of that moment (`follows_after`), and its inputs are those
that the commands give (`inputsOf_eq`).
-/

namespace QuadDaq.Driver

variable {β : Type} [Board β]

/-- The number of the stream that a start begins. -/
def nextStream (d : Driver β) : Nat := d.engine.attempts + 1

/-- What the ticks of a stream are given along a run: to each tick the snapshot of the store
at its beginning, and the answer of the board to its read. -/
def inputsOf (d : Driver β) (k : Nat) (commands : List (Command β)) : List TickInput :=
  List.zipWith TickInput.mk (ofStream k (d.gather snapshotAt? commands))
    (ofStream k (d.gather outcomeAt? commands))

theorem start_sound {d : Driver β} (hd : d.Sound) : d.start.1.Sound := hd.after [.start]

/-- The ticks and the batches of a stream are those of its sampler. -/
theorem follows_after {d : Driver β} (hd : d.Sound) (hstart : d.start.2 = .done)
    (commands : List (Command β)) :
    (d.start.1.after commands).engine.Follows d.nextStream d.engine.button.isSome
      (.start d.engine.plan d.engine.store.snapshot.bridgeEpoch) := by
  refine Engine.Follows.of_changes ?_ (changes_after (start_sound hd) commands)
  obtain ⟨-, -, board, log, hlog, heq⟩ := start_eq_of_done hstart
  rw [heq]
  exact Engine.follows_started hd.engineNumbered hlog

/-- No command configures a driver anew. -/
theorem config_after {d : Driver β} (hd : d.Sound) (commands : List (Command β)) :
    (d.after commands).engine.config = d.engine.config :=
  config_eq_of_changes (changes_after hd commands)

/-- The inputs of a stream are those of its completed ticks, and of the one that crashed. -/
theorem inputsOf_eq {d : Driver β} (hd : d.Sound) (hstart : d.start.2 = .done)
    (commands : List (Command β)) :
    d.start.1.inputsOf d.nextStream commands =
      ((d.start.1.after commands).engine.ticksOf d.nextStream).map TickRecord.input ++
        (ofStream d.nextStream (d.start.1.after commands).engine.crashes).map fun tick =>
          ⟨tick.snapshot, .crash⟩ := by
  have hfresh : d.start.1.engine.snapshotsOf d.nextStream = [] ∧
      d.start.1.engine.outcomesOf d.nextStream = [] := by
    obtain ⟨-, -, board, log, hlog, heq⟩ := start_eq_of_done hstart
    rw [heq]
    exact Engine.started_history hd.engineNumbered hlog
  obtain ⟨hsnapshots, houtcomes⟩ := inputs_after d.nextStream commands (start_sound hd)
  rw [hfresh.1, List.nil_append] at hsnapshots
  rw [hfresh.2, List.nil_append] at houtcomes
  rw [inputsOf, ← hsnapshots, ← houtcomes, Engine.zipWith_history]

/-- A stream that has just been started has nothing in the books of the delivery side, and
its outlet is current and empty. -/
theorem start_delivery {d : Driver β} (hd : d.Sound) (hstart : d.start.2 = .done) :
    d.start.1.delivery.lostOf d.nextStream = [] ∧ d.start.1.delivery.lateOf d.nextStream = [] ∧
      d.start.1.delivery.holds = d.delivery.holds ∧
      ∀ o, d.start.1.delivery.current = some o → o.Free 0 := by
  obtain ⟨-, -, board, log, -, heq⟩ := start_eq_of_done hstart
  have hnew : d.delivery.receivedOf d.nextStream = [] :=
    Delivery.receivedOf_eq_nil hd.deliveryNumbered (Nat.lt_succ_self _)
  have hreceived : d.start.1.delivery.receivedOf d.nextStream = [] := by
    rw [heq]
    exact hnew
  obtain ⟨settled, n, hfated, hsettled, -⟩ :=
    ((start_sound hd).delivery.accounts d.nextStream).fated
  rw [hreceived] at hsettled
  obtain ⟨hfront, hlate⟩ := List.append_eq_nil_iff.mp hsettled.symm
  obtain ⟨rfl, -⟩ := List.append_eq_nil_iff.mp hfront
  refine ⟨hfated.of_nil.2.1, hlate, by rw [heq]; rfl, ?_⟩
  rw [heq]
  intro o ho
  rw [← Option.some.inj ho]
  exact ⟨rfl, rfl, Nat.le_refl _⟩

end QuadDaq.Driver

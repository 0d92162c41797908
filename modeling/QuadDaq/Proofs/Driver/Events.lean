import QuadDaq.Proofs.Delivery.Claiming
import QuadDaq.Proofs.Delivery.Lending
import QuadDaq.Proofs.Delivery.Transitions
import QuadDaq.Proofs.Driver.Runs
import QuadDaq.Proofs.Stream.Presses

/-!
# Events of a driver

**What holds of event consumers and of transitions wherever a driver is.** The laws of
the delivery side hold in every reachable state (`Reachable.attended`, `Reachable.booked`,
`Reachable.keepsTransitions`), and a command misses no consumer that is free
(`step_claims`). Only stopping the stream can detain one.
-/

namespace QuadDaq.Driver

open Relation (ReflTransGen)

variable {β : Type} {d : Driver β} {kind : EventKind}

/-- A move misses no consumer that is free, and leaves it free unless it stops the stream. -/
theorem Move.free {stops : Bool} {d' : Driver β} (h : Move stops d d') (hd : d.Sound)
    (hf : d.delivery.Free kind) :
    Consumers.Claims kind d.delivery.toConsumers d'.delivery.toConsumers ∧
      (d'.delivery.Free kind ∨ stops = true ∧ d'.delivery.current = none) := by
  cases h with
  | aside _ _ _ _ => exact ⟨.of_log rfl, .inl hf⟩
  | readHeld on => exact ⟨.of_log rfl, .inl hf⟩
  | started hphase _ _ =>
      have hnone : d.delivery.current = none := by
        rw [← Option.not_isSome_iff_eq_none, ← hd.running, hphase]
        simp
      exact ⟨.of_log rfl,
        .inl (hf.opened hnone hd.deliveryNumbered (Nat.lt_succ_self _) (Nat.le_refl _))⟩
  | stopped hstops _ _ _ _ =>
      exact ⟨Delivery.closeStream_claims _, .inr ⟨hstops, Delivery.closeStream_current _⟩⟩
  | @ticked run _ signals hrun _ =>
      exact ⟨Delivery.publishAll_claims _ signals _,
        .inl (hf.publishAll (hd.engineNumbered.run run hrun) signals)⟩
  | turned hturn => exact ⟨hf.claims hturn, .inl (hf.turn hturn)⟩

/-- What every change of the delivery side preserves, every move preserves. -/
theorem Move.preserves {stops : Bool} {P : Delivery → Prop}
    (hchange : ∀ n v v', v.Sound → Delivery.Change n v v' → P v → P v') {d' : Driver β}
    (h : Move stops d d') (hd : d.Sound) (hP : P d.delivery) : P d'.delivery :=
  (preserved_of_changes (P := fun v => v.Sound ∧ P v)
    (fun v v' h hv => ⟨h.sound hv.1, hchange _ v v' hv.1 h hv.2⟩)
    (h.delivery_changes hd.toLinked) ⟨hd.delivery, hP⟩).2

/-- The transitions that were published are those that were handed in. -/
theorem Linked.receivedTransitions_eq {d : Driver β} (hl : d.Linked) :
    d.delivery.receivedTransitions = d.engine.transitions := by
  rw [Delivery.receivedTransitions, hl.received]
  rfl

variable [Board β]

/-- What every change of the delivery side preserves, every run preserves. -/
theorem delivery_induction {P : Delivery → Prop}
    (hchange : ∀ n v v', v.Sound → Delivery.Change n v v' → P v → P v') (hd : d.Sound)
    (hP : P d.delivery) (commands : List (Command β)) : P (d.after commands).delivery :=
  (after_induction (P := fun d => P d.delivery) (fun _ _ _ hd hmove => hmove.preserves hchange hd) hd
    hP commands).2

/-- What is true of a new delivery side and preserved by every change is always true. -/
theorem Reachable.delivery_induction {P : Delivery → Prop} (hnew : P {})
    (hchange : ∀ n v v', v.Sound → Delivery.Change n v v' → P v → P v') (hd : d.Reachable) :
    P d.delivery := by
  obtain ⟨plan, new, commands, hbuild, rfl⟩ := hd
  have hsound := sound_of_build hbuild
  obtain ⟨board, store, -, -, rfl⟩ := build_inv hbuild
  exact Driver.delivery_induction hchange hsound hnew commands

theorem Reachable.attended (hd : d.Reachable) : d.delivery.Attended := by
  refine hd.delivery_induction (P := Delivery.Attended) ?_ fun _ _ _ _ => Delivery.Change.attended
  refine ⟨by simp [Delivery.outlets], fun kind hpos => ?_⟩
  cases kind <;> exact absurd hpos (Nat.lt_irrefl 0)

theorem Reachable.booked (hd : d.Reachable) : d.delivery.Booked := by
  refine hd.delivery_induction (P := Delivery.Booked) ?_ fun _ _ _ _ => Delivery.Change.booked
  exact fun kind => ⟨[], by cases kind <;> rfl, .nil⟩

/-- A consumer is inside one call at most, and inside none while it is in its place. -/
theorem Reachable.exclusive (hd : d.Reachable) (kind : EventKind) :
    ((d.delivery.loans kind).map Loan.generation).Nodup ∧
      ((d.delivery.registration kind).current.isSome → ∀ loan ∈ d.delivery.loans kind,
        loan.generation ≠ (d.delivery.registration kind).generation) :=
  (hd.booked kind).exclusive

theorem Reachable.keepsTransitions (hd : d.Reachable) : d.delivery.KeepsTransitions :=
  hd.delivery_induction
    ⟨fun _ => rfl, .slnil, rfl, by simp, by simp⟩
    fun _ _ _ hv hchange => hchange.keepsTransitions hv.tidy

/-- A command misses no consumer that is free, and leaves it free unless it stops the stream. -/
theorem step_claims (hd : d.Sound) (hf : d.delivery.Free kind) (command : Command β) :
    Consumers.Claims kind d.delivery.toConsumers (d.step command).1.delivery.toConsumers ∧
      (command.isStop = false → (d.step command).1.delivery.Free kind) := by
  cases hstop : command.isStop with
  | true =>
      refine ⟨?_, by simp⟩
      cases command <;> simp [Command.isStop] at hstop
      rcases d.stop_delivery_cases with heq | heq
      · simp only [step, heq]
        exact .of_log rfl
      · simp only [step, heq]
        exact Delivery.closeStream_claims d.delivery
  | false =>
      have hmoves := step_moves hd.toLinked command
      rw [hstop] at hmoves
      have hall : (d.step command).1.Sound ∧ (d.step command).1.delivery.Free kind ∧
          Consumers.Claims kind d.delivery.toConsumers
            (d.step command).1.delivery.toConsumers := by
        refine preserved_of_changes (P := fun d' => d'.Sound ∧ d'.delivery.Free kind ∧
          Consumers.Claims kind d.delivery.toConsumers d'.delivery.toConsumers) ?_ hmoves
          ⟨hd, hf, .of_log rfl⟩
        intro d₁ d₂ hmove h
        obtain ⟨hclaims, hfree⟩ := hmove.free h.1 h.2.1
        exact ⟨hmove.sound h.1, hfree.resolve_right (by simp), h.2.2.trans hclaims⟩
      exact ⟨hall.2.2, fun _ => hall.2.1⟩

end QuadDaq.Driver

import QuadDaq.Proofs.Driver.Streams

/-!
# Streams publish their reference batches

**What comes out of a stream is a function of what its ticks are given.** Whatever else
happens to the driver, the batches that a stream publishes are the full blocks of the rows
that its ticks contribute (`referenceBatches`), and a data consumer that never blocks is
called with exactly these.
-/

namespace QuadDaq.Driver

variable {β : Type} [Board β]

/-- The published batches of a stream are its reference batches. -/
theorem published_eq {d : Driver β} (hd : d.Sound) (hstart : d.start.2 = .done)
    (commands : List (Command β)) :
    (d.start.1.after commands).engine.batchesOf d.nextStream =
      referenceBatches d.engine.plan d.engine.store.snapshot.bridgeEpoch
        (d.start.1.inputsOf d.nextStream commands) := by
  obtain ⟨s, hyields, -⟩ := (follows_after hd hstart commands).replay
  -- A tick that crashed is among the inputs, but contributes no row.
  rw [inputsOf_eq hd hstart, referenceBatches, contributions_append_of_none, ← referenceBatches]
  · exact hyields.batches_eq hd.engine.batchRows
  · intro i hi
    obtain ⟨tick, -, rfl⟩ := List.mem_map.mp hi
    rfl

/-- Without a held data consumer the published batches are delivered in order, and only
those that come too late are not. -/
theorem delivered_eq {d : Driver β} (hd : d.Sound) (hstart : d.start.2 = .done)
    (hunheld : d.delivery.holds.data = false) {commands : List (Command β)}
    (hcommands : ∀ command ∈ commands, command.holdsData = false) :
    (d.start.1.after commands).delivery.deliveredOf d.nextStream ++
        ((d.start.1.after commands).delivery.lateOf d.nextStream).map (·, 0) =
      ((d.start.1.after commands).engine.batchesOf d.nextStream).map (·, 0) := by
  obtain ⟨hlost, -, hholds, hfree⟩ := start_delivery hd hstart
  have hprompt : d.start.1.delivery.Prompt := ⟨by rw [hholds, hunheld], hfree⟩
  obtain ⟨hprompt', hlost'⟩ := prompt_after commands (start_sound hd) hprompt hcommands
  have hsound := (start_sound hd).after commands
  obtain ⟨settled, n, hfated, hreceived, -⟩ := (hsound.delivery.accounts d.nextStream).fated
  have hnone : (d.start.1.after commands).delivery.lostOf d.nextStream = [] :=
    (congrArg (ofStream d.nextStream) hlost').trans hlost
  -- Nothing is lost and nothing waits, so what was handed in was delivered or is late.
  rw [hnone] at hfated
  rw [hfated.of_lost_eq_nil.2, ← hsound.receivedOf_eq, hreceived, hprompt'.waitingOf,
    List.append_nil, List.map_append]

/-- If no stop breaks into a read either, nothing comes too late. -/
theorem lateOf_eq_nil {d : Driver β} (hd : d.Sound) (hstart : d.start.2 = .done)
    (hunheld : d.delivery.holds.data = false) {commands : List (Command β)}
    (hcommands : ∀ command ∈ commands, command.holdsData = false)
    (hstops : d.start.1.StopsBetweenReads commands) :
    (d.start.1.after commands).delivery.lateOf d.nextStream = [] := by
  obtain ⟨-, hlate, hholds, hfree⟩ := start_delivery hd hstart
  have hprompt : d.start.1.delivery.Prompt := ⟨by rw [hholds, hunheld], hfree⟩
  have hcustody : d.start.1.engine.custody ≠ .awaited := by
    obtain ⟨-, -, board, log, -, heq⟩ := start_eq_of_done hstart
    rw [heq]
    simp [Engine.started]
  have hlate' := late_after commands (start_sound hd) hprompt hcustody hcommands hstops
  exact (congrArg (ofStream d.nextStream) hlate').trans hlate

/-- After any commands the batches of a stream are the consecutive full blocks of its
contributed rows. A data consumer that never blocks is called with each of them, in order,
and told of no dropped one; a batch of a tick that ends after the stop of its stream is
published too late for that. -/
theorem batches_eq_reference {d : Driver β} (hd : d.Reachable) (hstart : d.start.2 = .done)
    (commands : List (Command β)) :
    (d.start.1.after commands).engine.batchesOf d.nextStream =
        referenceBatches d.engine.plan d.engine.store.snapshot.bridgeEpoch
          (d.start.1.inputsOf d.nextStream commands) ∧
      (d.delivery.holds.data = false → (∀ command ∈ commands, command.holdsData = false) →
        (d.start.1.after commands).delivery.deliveredOf d.nextStream ++
            ((d.start.1.after commands).delivery.lateOf d.nextStream).map (·, 0) =
          ((d.start.1.after commands).engine.batchesOf d.nextStream).map (·, 0) ∧
        (d.start.1.StopsBetweenReads commands →
          (d.start.1.after commands).delivery.deliveredOf d.nextStream =
            ((d.start.1.after commands).engine.batchesOf d.nextStream).map (·, 0))) := by
  refine ⟨published_eq hd.sound hstart commands, fun hunheld hcommands => ?_⟩
  have hdelivered := delivered_eq hd.sound hstart hunheld hcommands
  refine ⟨hdelivered, fun hstops => ?_⟩
  rw [lateOf_eq_nil hd.sound hstart hunheld hcommands hstops, List.map_nil,
    List.append_nil] at hdelivered
  exact hdelivered

/-- Seven ticks: the first is discarded, the second fails, and each of the others brings a row. -/
def sevenTicks : List (Command Board.Scripted) := List.replicate 7 (.tick 0)

/-- Two batches are full, and one row is left over. -/
theorem batches_eq_reference_scripted :
    readied.start.2 = .done ∧
      (readied.start.1.inputsOf 1 sevenTicks).length = 7 ∧
      ((readied.start.1.after sevenTicks).engine.batchesOf 1).map (fun b => (b.firstTick, b.size)) =
        [(2, 2), (4, 2)] ∧
      (readied.start.1.after sevenTicks).engine.batchesOf 1 =
        referenceBatches readied.engine.plan 0 (readied.start.1.inputsOf 1 sevenTicks) ∧
      (readied.start.1.after sevenTicks).delivery.deliveredOf 1 =
        ((readied.start.1.after sevenTicks).engine.batchesOf 1).map (·, 0) := by
  obtain ⟨hpublished, hdelivered⟩ :=
    batches_eq_reference (.of_build scripted_build [.configure (.preset .identity)]) rfl sevenTicks
  have hprompt : ∀ command ∈ sevenTicks, command.holdsData = false := by
    simp [sevenTicks, Command.holdsData]
  refine ⟨rfl, by decide, by decide, hpublished, (hdelivered rfl hprompt).2 ?_⟩
  intro first rest heq
  have hmem : Command.stop ∈ sevenTicks := by
    rw [heq]
    exact List.mem_append_right _ List.mem_cons_self
  simp [sevenTicks] at hmem

end QuadDaq.Driver

import QuadDaq.Proofs.Driver.Runs

/-!
# Nothing is lost without a trace

**Where the ticks, the rows and the batches of a driver are** (`Conserves`), in terms of its
lifetime counters. The laws hold across streams: a call that outlives its stream is
counted when it ends, and what a stop throws away stays on the record.
-/

namespace QuadDaq.Driver

open Relation (ReflTransGen)

variable {β : Type} [Board β]

/-- The books of a driver over its whole life. -/
structure Conserves (d : Driver β) : Prop where
  /-- A tick is discarded, or fails, or is incomplete, or brings a row. -/
  ticks : d.engine.counters.ticks =
    d.engine.counters.discarded + d.engine.counters.faults + d.engine.counters.incomplete +
      d.engine.rowsCollected
  /-- A row is delivered, or evicted, or in a batch that waits or is inside a call, or
  pending, or was thrown away by a stop. -/
  rows : d.engine.rowsCollected =
    d.delivery.counters.rowsDelivered + weigh Batch.size d.delivery.lost +
      (weigh Batch.size d.delivery.waiting + weigh Batch.size d.delivery.calling) +
      d.engine.rowsPending + (d.engine.rowsAbandoned + weigh Batch.size d.delivery.late)
  /-- A batch is delivered, or evicted, or waits, or is inside a call, or was thrown away
  by a stop. -/
  batches : d.engine.batches.length =
    d.delivery.counters.batchesDelivered + d.delivery.counters.droppedBatches +
      d.delivery.waiting.length + d.delivery.calling.length + d.delivery.late.length

omit [Board β] in
theorem Sound.conserves {d : Driver β} (hd : d.Sound) : d.Conserves := by
  have hbalanced := hd.delivery.balanced
  have hcounted := hd.delivery.counted
  have hreceived := hd.receivedBatches_eq
  refine ⟨hd.engine.tallied.sum, ?_, ?_⟩
  · -- Weighed with their sizes, batches are rows.
    have hkeeps : d.engine.rowsCollected = _ := hd.engine.keepsRows
    have hrows := hbalanced Batch.size
    rw [hreceived] at hrows
    rw [hkeeps, hrows, hcounted.rowsDelivered]
    omega
  · have hbatches := hbalanced fun _ => 1
    simp only [weigh_one, hreceived] at hbatches
    rw [hbatches, hcounted.batchesDelivered, hcounted.droppedBatches]
    omega

/-- No counter of the driver is greater than in the second driver. -/
structure GrowsTo (d d' : Driver β) : Prop where
  engine : d.engine.counters.GrowTo d'.engine.counters
  delivery : d.delivery.counters.GrowTo d'.delivery.counters

omit [Board β] in
/-- No move takes a count back. -/
theorem Move.grows {stops : Bool} {d₀ d d' : Driver β} (h : Move stops d d') (hd : d.Sound) (hgrows : d₀.GrowsTo d) :
    d₀.GrowsTo d' where
  engine :=
    preserved_of_changes (P := fun e => d₀.engine.counters.GrowTo e.counters)
      (fun _ _ hchange hgrow => hgrow.trans hchange.counters_grow) h.engine_changes hgrows.engine
  delivery :=
    preserved_of_changes (P := fun v => d₀.delivery.counters.GrowTo v.counters)
      (fun _ _ hchange hgrow => hgrow.trans hchange.counters_grow)
      (h.delivery_changes hd.toLinked) hgrows.delivery

/-- Wherever the driver is, its books are balanced, and no counter goes back from there on. -/
theorem books_balanced {d : Driver β} (hd : d.Reachable) :
    d.Conserves ∧ ∀ commands, d.GrowsTo (d.after commands) := by
  refine ⟨hd.sound.conserves, fun commands => ?_⟩
  exact (after_induction (fun _ _ _ hd h hgrows => h.grows hd hgrows) hd.sound
    ⟨.refl _, .refl _⟩ commands).2

/-- A driver that was stopped while its data consumer was inside a call. -/
def interrupted : Driver Board.Scripted :=
  crowded.after (.start :: .hold .data :: List.replicate 5 (.tick 0) ++ [.stop])

/-- Of three rows one is inside a call, one was evicted, and one was thrown away by the stop. The
call that ends later is counted then. -/
theorem books_balanced_scripted :
    interrupted.engine.counters = { ticks := 5, discarded := 1, faults := 1 } ∧
      interrupted.engine.rowsCollected = 3 ∧
      interrupted.delivery.counters = { droppedBatches := 1 } ∧
      interrupted.delivery.calling.length = 1 ∧ interrupted.delivery.late.length = 1 ∧
      interrupted.Conserves ∧ interrupted.GrowsTo (interrupted.after [.release .data]) ∧
      (interrupted.after [.release .data]).delivery.counters =
        { rowsDelivered := 1, batchesDelivered := 1, droppedBatches := 1 } := by
  have hcrowded : crowded.Reachable := .of_build cramped_build _
  obtain ⟨hconserves, hgrows⟩ := books_balanced (d := interrupted) (hcrowded.after _)
  exact ⟨by decide, by decide, by decide, by decide, by decide, hconserves, hgrows _, by decide⟩

end QuadDaq.Driver

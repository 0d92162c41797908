import QuadDaq.Proofs.Driver.Draining
import QuadDaq.Proofs.Driver.Streams
import QuadDaq.Proofs.Stream.Spacing

/-!
# Losses are reported exactly

**A data consumer that blocks as long as it likes still learns what it missed.** With each
batch it is told how many were dropped since the one before, so it can account for every
tick between two deliveries (`ReportsLosses`).
-/

namespace QuadDaq.Driver

variable {β : Type}

/-- What a data consumer can tell of a stream that publishes batches of so many rows into
a queue of this capacity. -/
structure ReportsLosses (k rows capacity : Nat) (d : Driver β) : Prop where
  /-- Published batches are delivered in order, some of them not at all. -/
  sublist : ((d.delivery.deliveredOf k).map Prod.fst).Sublist (d.engine.batchesOf k)
  /-- No batch is delivered twice. -/
  increasing : (d.delivery.deliveredOf k).Pairwise fun x y => x.1.firstTick < y.1.firstTick
  waiting : (d.delivery.waitingOf k).length ≤ capacity
  /-- Batches wait only while the data consumer does not return from a call. -/
  draining : d.delivery.Drained
  /-- Batches are delivered or lost in the order of their publication; those that wait were
  published after all of these. -/
  settled : ∃ settled n, Fated settled (d.delivery.deliveredOf k) (d.delivery.lostOf k) n ∧
    d.engine.batchesOf k = settled ++ d.delivery.waitingOf k ++ d.delivery.lateOf k
  /-- With a batch the number of those is reported that were published after the one
  delivered before. -/
  dropped : ∃ rest, Delivers (d.engine.batchesOf k) (d.delivery.deliveredOf k) rest
  /-- From one delivered batch to the next the ticks are those of its rows, those of the rows
  of dropped batches, and those without a row. -/
  ticks : ∀ before x y after, d.delivery.deliveredOf k = before ++ x :: y :: after →
    y.1.firstTick = x.1.firstTick + x.1.size + y.2 * rows +
      rowless (d.engine.ticksOf k) x.1.firstTick y.1.firstTick

theorem Sound.waitingOf_le {d : Driver β} (hd : d.Sound) (k : Nat) :
    (d.delivery.waitingOf k).length ≤ d.engine.config.queueCapacity := by
  unfold Delivery.waitingOf
  split
  · next o ho =>
      have hle := o.batches.length_le
      have hpos := hd.engine.queueCapacity
      rw [hd.room o ho] at hle
      split
      · omega
      · exact Nat.zero_le _
  · exact Nat.zero_le _

/-- A stream reports its losses if its ticks and batches are those of a sampler. -/
theorem Sound.reportsLosses {d : Driver β} (hd : d.Sound) (hdrained : d.delivery.Drained)
    {k : Nat} {fitted : Bool} {plan : StreamPlan} {initial : UInt64} (hrows : 0 < plan.batchRows)
    (hfollows : d.engine.Follows k fitted (.start plan initial)) :
    d.ReportsLosses k plan.batchRows d.engine.config.queueCapacity := by
  obtain ⟨s, hyields, -⟩ := hfollows.replay
  obtain ⟨settled, n, hfated, hreceived, -⟩ := (hd.delivery.accounts k).fated
  rw [hd.receivedOf_eq] at hreceived
  -- What waits or is late follows the settled batches, and so the last delivered one.
  have hdelivers : ∃ rest, Delivers (d.engine.batchesOf k) (d.delivery.deliveredOf k) rest := by
    obtain ⟨rest, hsettled, -⟩ := hfated.delivers
    rw [hreceived, List.append_assoc]
    exact ⟨_, hsettled.append _⟩
  obtain ⟨rest, hrest⟩ := hdelivers
  have hincreasing : (d.engine.batchesOf k).Pairwise fun x y => x.firstTick < y.firstTick := by
    rw [List.pairwise_iff_getElem]
    intro i j hi hj hij
    exact hyields.firstTick_lt hrows (List.getElem?_eq_getElem hi) (List.getElem?_eq_getElem hj) hij
  refine ⟨hrest.sublist, ?_, hd.waitingOf_le k, hdrained, ⟨settled, n, hfated, hreceived⟩,
    ⟨rest, hrest⟩, ?_⟩
  · have hdelivered := hincreasing.sublist hrest.sublist
    rw [List.pairwise_map] at hdelivered
    exact hdelivered
  · intro before x y after heq
    rw [heq] at hrest
    obtain ⟨i, hx, hy⟩ := hrest.consecutive
    exact hyields.spacing hrows hx hy

variable [Board β]

/-- Whatever consumers do after a start, the stream reports its losses, and a publication
displaces no batch but the one that has waited longest. -/
theorem losses_reported {d : Driver β} (hd : d.Reachable) (hstart : d.start.2 = .done)
    (commands : List (Command β)) :
    (d.start.1.after commands).ReportsLosses d.nextStream d.engine.plan.batchRows
        d.engine.config.queueCapacity ∧
      ∀ (v : Delivery) (signal : Signal),
        (v.publish d.nextStream signal).lostOf d.nextStream = v.lostOf d.nextStream ∨
          ∃ b oldest rest, signal = .batch b ∧ v.waitingOf d.nextStream = oldest :: rest ∧
            (v.publish d.nextStream signal).lostOf d.nextStream =
              v.lostOf d.nextStream ++ [oldest] ∧
            (v.publish d.nextStream signal).waitingOf d.nextStream = rest ++ [b] := by
  refine ⟨?_, fun v signal => v.publish_evicts d.nextStream signal⟩
  have hconfig : (d.start.1.after commands).engine.config = d.engine.config :=
    config_after hd.sound (.start :: commands)
  obtain ⟨-, -, -, hempty⟩ := start_delivery hd.sound hstart
  have hdrained : d.start.1.delivery.Drained := fun o ho _ => (hempty o ho).items_eq_nil
  rw [← hconfig]
  exact ((start_sound hd.sound).after commands).reportsLosses
    (drained_after commands (start_sound hd.sound) hdrained) hd.sound.engine.batchRows
    (follows_after hd.sound hstart commands)

/-- While the data consumer is inside its first call, three more batches are published. -/
def overrun : List (Command Board.Scripted) :=
  .hold .data :: List.replicate 6 (.tick 0) ++ [.release .data]

/-- Two of them are evicted, and the call with the third one tells so. -/
theorem losses_reported_scripted :
    crowded.start.2 = .done ∧
      ((crowded.start.1.after overrun).delivery.deliveredOf 1).map (fun p => (p.1.firstTick, p.2)) =
        [(2, 0), (5, 2)] ∧
      ((crowded.start.1.after overrun).delivery.lostOf 1).map Batch.firstTick = [3, 4] ∧
      (crowded.start.1.after overrun).ReportsLosses 1 1 1 := by
  refine ⟨rfl, by decide, by decide, ?_⟩
  exact (losses_reported (.of_build cramped_build [.configure (.preset .identity)]) rfl overrun).1

end QuadDaq.Driver

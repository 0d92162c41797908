import QuadDaq.Proofs.Delivery.Claiming
import QuadDaq.Proofs.Delivery.Reports
import QuadDaq.Proofs.Delivery.Transitions

/-!
# Who settles fates

**Each fate has its cause.** Workers take transitions out of the queue (`turns_settles`), a
publication evicts the one that has waited longest in a full queue (`publishAll_settles`),
and a stop discards those that wait (`closeStream_settles`). As long as no consumer is missed
those that workers take are delivered (`Claims.settles`).

Every eviction is reported (`evictions_reported`).
-/

namespace QuadDaq

open Relation (ReflTransGen)

/-- A worker took the transition out of the queue. -/
def Fate.isTaken : Fate → Bool
  | .delivered _ | .unclaimed => true
  | .evicted | .discarded => false

/-- From one state to a later one only fates like these were settled. -/
def Consumers.Settles (P : Settlement → Prop) (c c' : Consumers) : Prop :=
  ∃ added, c'.settled = c.settled ++ added ∧ ∀ s ∈ added, P s

namespace Consumers

namespace Settles

variable {P Q : Settlement → Prop} {c c₁ c' : Consumers}

theorem of_eq (h : c'.settled = c.settled) : Settles P c c' :=
  ⟨[], by rw [h, List.append_nil], by simp⟩

theorem trans (h : Settles P c c₁) (h' : Settles P c₁ c') : Settles P c c' := by
  obtain ⟨added, hsettled, hadded⟩ := h
  obtain ⟨added', hsettled', hadded'⟩ := h'
  refine ⟨added ++ added', by rw [hsettled', hsettled, List.append_assoc], fun s hs => ?_⟩
  exact (List.mem_append.mp hs).elim (hadded s) (hadded' s)

theorem mono (h : Settles P c c') (himp : ∀ s, P s → Q s) : Settles Q c c' := by
  obtain ⟨added, hsettled, hadded⟩ := h
  exact ⟨added, hsettled, fun s hs => himp s (hadded s hs)⟩

theorem and (h : Settles P c c') (h' : Settles Q c c') : Settles (fun s => P s ∧ Q s) c c' := by
  obtain ⟨added, hsettled, hadded⟩ := h
  obtain ⟨added', hsettled', hadded'⟩ := h'
  obtain rfl : added = added' := List.append_cancel_left (hsettled.symm.trans hsettled')
  exact ⟨added, hsettled, fun s hs => ⟨hadded s hs, hadded' s hs⟩⟩

end Settles

/-- Where no consumer is missed no transition goes unclaimed. -/
theorem Claims.settles {c c' : Consumers} (h : Claims .button c c') :
    Settles (fun s => s.fate ≠ .unclaimed) c c' := by
  obtain ⟨added, hlog, hadded⟩ := h
  refine ⟨added.flatMap DeliveryEvent.settled, ?_, fun s hs => ?_⟩
  · rw [settled, hlog, List.flatMap_append, ← settled]
  · obtain ⟨event, hevent, hs⟩ := List.mem_flatMap.mp hs
    rintro hfate
    rcases DeliveryEvent.eq_of_settled hs with ⟨consumer, -, hother⟩ | ⟨rfl, -⟩ | ⟨-, hother⟩ |
      ⟨batches, transitions, -, hother⟩
    · cases hfate.symm.trans hother
    · exact hadded _ hevent rfl
    · cases hfate.symm.trans hother
    · cases hfate.symm.trans hother

end Consumers

namespace Delivery

variable {d d' : Delivery}

theorem Turn.settles (h : Turn d d') :
    Consumers.Settles (fun s => s.fate.isTaken) d.toConsumers d'.toConsumers := by
  have hworked : ∀ {c c' : Consumers} {o o' : Outlet}, Work (c, o) (c', o') →
      Consumers.Settles (fun s => s.fate.isTaken) c c' := by
    intro c c' o o' hwork
    obtain ⟨-, -, ⟨hsame, -⟩ | ⟨t, rest, fate, -, -, -, hfate, hsettled⟩⟩ := hwork.settles
    · exact .of_eq hsame
    · refine ⟨[⟨o.stream, t, fate⟩], hsettled, fun s hs => ?_⟩
      rw [List.mem_singleton.mp hs]
      rcases hfate with rfl | ⟨consumer, rfl⟩ <;> rfl
  cases h with
  | worked _ hwork => exact hworked hwork
  | workedRetired _ hwork => exact hworked hwork
  | letGo _ _ => exact .of_eq rfl
  | registered kind consumer => exact .of_eq (Consumers.setRegistration_settled _ _ _)
  | held kind on => exact .of_eq rfl

/-- Workers and consumers settle the fates of those transitions that workers take. -/
theorem turns_settles (h : ReflTransGen Turn d d') :
    Consumers.Settles (fun s => s.fate.isTaken) d.toConsumers d'.toConsumers := by
  induction h with
  | refl => exact .of_eq rfl
  | tail _ hturn ih => exact ih.trans hturn.settles

/-! ### Publications -/

/-- The transition has waited longest, and the queue is full. -/
structure EvictsNext (d : Delivery) (p : Nat × Transition) : Prop where
  oldest : d.waitingTransitions.head? = some p
  full : d.waitingTransitions.length = transitionCapacity

/-- A transition of the current stream evicts the one that has waited longest in a full queue,
if any. -/
theorem publish_settles {k : Nat} (t : Transition) {o : Outlet} (ho : d.current = some o)
    (hstream : o.stream = k) (hcapacity : o.transitions.capacity = transitionCapacity) :
    Consumers.Settles (fun s => s.fate = .evicted ∧ d.EvictsNext s.published) d.toConsumers
      (d.publish k (.transition t)).toConsumers := by
  have henters := d.publish_enters k t
  generalize d.publish k (.transition t) = d' at henters
  cases henters with
  | late hne _ _ _ => exact absurd hstream (hne o ho)
  | queued _ _ _ _ _ hsettled _ => exact .of_eq hsettled
  | @evicted o₁ _ oldest rest ho₁ _ hold hfull _ _ _ hsettled _ =>
      obtain rfl : o = o₁ := Option.some.inj (ho.symm.trans ho₁)
      have hwaiting : d.waitingTransitions = o.waitingTransitions := by simp [waitingTransitions, ho]
      refine ⟨_, hsettled, fun s hs => ?_⟩
      rw [List.mem_singleton.mp hs]
      refine ⟨rfl, ?_, ?_⟩
      · rw [hwaiting, Outlet.waitingTransitions, hold, hstream]
        rfl
      · rw [hwaiting, Outlet.waitingTransitions, List.length_map, hfull, hcapacity]

/-- Signals without a transition settle nothing. -/
theorem publishAll_settled_of_none (k : Nat) (signals : List Signal)
    (h : ∀ s ∈ signals, s.transition? = none) :
    ∀ d : Delivery, (d.publishAll k signals).settled = d.settled ∧
      (d.publishAll k signals).current.map (fun o => (o.stream, o.transitions)) =
        d.current.map fun o => (o.stream, o.transitions) := by
  induction signals with
  | nil => exact fun d => ⟨rfl, rfl⟩
  | cons s rest ih =>
      intro d
      rw [List.forall_mem_cons] at h
      obtain ⟨hsettled, -, hcurrent⟩ := d.publish_settled_of_none k h.1
      obtain ⟨hsettled', hcurrent'⟩ := ih h.2 (d.publish k s)
      exact ⟨hsettled'.trans hsettled, hcurrent'.trans hcurrent⟩

/-- So a transition that follows them finds the queue as it was. -/
theorem publishAll_settles {k : Nat} {signals : List Signal}
    (hnone : ∀ s ∈ signals, s.transition? = none) (t? : Option Transition) {o : Outlet}
    (ho : d.current = some o) (hstream : o.stream = k)
    (hcapacity : o.transitions.capacity = transitionCapacity) :
    Consumers.Settles (fun s => s.fate = .evicted ∧ d.EvictsNext s.published) d.toConsumers
      (d.publishAll k (signals ++ (t?.map Signal.transition).toList)).toConsumers := by
  obtain ⟨hsettled, hcurrent⟩ := publishAll_settled_of_none k signals hnone d
  rw [publishAll, List.foldl_append, ← publishAll]
  cases t? with
  | none => exact .of_eq hsettled
  | some t =>
      have hwaiting : (d.publishAll k signals).waitingTransitions = d.waitingTransitions := by
        rw [waitingTransitions_eq, waitingTransitions_eq, hcurrent]
      obtain ⟨o', ho', heq⟩ := Option.map_eq_some_iff.mp (hcurrent.trans (by rw [ho, Option.map_some]))
      obtain ⟨hstream', htransitions⟩ := Prod.mk.inj heq
      have hpublished := publish_settles (d := d.publishAll k signals) t ho'
        (hstream'.trans hstream) (htransitions ▸ hcapacity)
      refine Consumers.Settles.trans (.of_eq hsettled) (hpublished.mono ?_)
      rintro s ⟨hfate, holdest, hfull⟩
      exact ⟨hfate, hwaiting ▸ holdest, hwaiting ▸ hfull⟩

/-- A stop discards what waits. -/
theorem closeStream_settles (d : Delivery) :
    Consumers.Settles (fun s => s.fate = .discarded ∧ s.published ∈ d.waitingTransitions)
      d.toConsumers d.closeStream.toConsumers := by
  cases ho : d.current with
  | none => exact .of_eq (by simp only [closeStream, ho])
  | some o =>
      rw [closeStream_eq ho]
      refine ⟨_, Consumers.note_settled _ _, fun s hs => ?_⟩
      obtain ⟨t, ht, rfl⟩ := List.mem_map.mp hs
      refine ⟨rfl, ?_⟩
      simp only [waitingTransitions, ho, Option.toList_some, List.flatMap_singleton]
      exact List.mem_map_of_mem ht

/-! ### Reports -/

/-- An entry reports what it tells was evicted. -/
theorem evicted_of_entry (event : DeliveryEvent) :
    (((event.settled.filter fun s => s.fate = .evicted).map Settlement.published).map
      fun p => (p.1, (Loss.transition p.2).report)).Sublist event.report?.toList := by
  cases event with
  | lost k loss =>
      cases loss <;> simp [DeliveryEvent.settled, DeliveryEvent.report?, Settlement.published]
  | discarded k batches transitions =>
      have hnone : (transitions.map (Settlement.mk k · .discarded)).filter
          (fun s => s.fate = .evicted) = [] := by simp
      simp only [DeliveryEvent.settled, hnone, List.map_nil, List.nil_sublist]
  | _ => simp [DeliveryEvent.settled]

/-- Every eviction is reported, in order. -/
theorem evictions_reported (d : Delivery) :
    ((d.settledAs .evicted).map fun p => (p.1, (Loss.transition p.2).report)).Sublist d.reports := by
  unfold settledAs Consumers.settled Consumers.reports
  rw [List.filterMap_eq_flatMap_toList]
  induction d.log.toList with
  | nil => exact .slnil
  | cons event rest ih =>
      rw [List.flatMap_cons, List.flatMap_cons, List.filter_append, List.map_append, List.map_append]
      exact (evicted_of_entry event).append ih

end Delivery

end QuadDaq

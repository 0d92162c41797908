import QuadDaq.Proofs.Delivery.Ended
import QuadDaq.Proofs.Delivery.Transitions

/-!
# Who is called

**Only registered consumers are called.** Whoever is in its place, inside a call, or was called
according to the log, was registered before (`CallsOnly`). Workers call those whom they find
in their places and put nobody else there.
-/

namespace QuadDaq

open Relation (ReflTransGen)

/-- The event consumer that an entry tells was called. -/
def DeliveryEvent.consumer? : DeliveryEvent → Option (EventKind × String)
  | .transition _ consumer _ => some (.button, consumer)
  | .errors _ consumer _ => some (.error, consumer)
  | .received .. | .batch .. | .batchDone .. | .transitionUnclaimed .. | .errorsUnclaimed .. |
    .lost .. | .discarded .. => none

theorem TakenEvent.consumer?_called (event : TakenEvent) (k : Nat) (consumer : String) :
    (event.called k consumer).consumer? = some (event.kind, consumer) := by
  cases event <;> rfl

theorem TakenEvent.consumer?_unclaimed (event : TakenEvent) (k : Nat) :
    (event.unclaimed k).consumer? = none := by
  cases event <;> rfl

theorem DeliveryEvent.isCall_of_consumer? {event : DeliveryEvent} {p : EventKind × String}
    (h : event.consumer? = some p) : event.isCall = true := by
  cases event <;> first | rfl | cases h

/-- Whoever is in its place, inside a call, or was called, is one of these. -/
structure Consumers.CallsOnly (known : EventKind → String → Prop) (c : Consumers)
    (outlets : List Outlet) : Prop where
  placed : ∀ kind consumer, (c.registration kind).current = some consumer → known kind consumer
  lent : ∀ o ∈ outlets, ∀ call, o.eventCall = some call → known call.kind call.loan.consumer
  called : ∀ event ∈ c.log.toList, ∀ kind consumer, event.consumer? = some (kind, consumer) →
    known kind consumer

namespace Consumers.CallsOnly

variable {known : EventKind → String → Prop} {c c' : Consumers} {outlets outlets' : List Outlet}

theorem mono {known' : EventKind → String → Prop} (h : c.CallsOnly known outlets)
    (himp : ∀ kind consumer, known kind consumer → known' kind consumer) :
    c.CallsOnly known' outlets :=
  ⟨fun kind consumer hplace => himp _ _ (h.placed kind consumer hplace),
    fun o ho call hcall => himp _ _ (h.lent o ho call hcall),
    fun event hevent kind consumer hcalled => himp _ _ (h.called event hevent kind consumer hcalled)⟩

/-- Where places and calls stay as they are, so does this. -/
theorem of_callsOf (h : c.CallsOnly known outlets)
    (hplaces : ∀ kind, c'.registration kind = c.registration kind)
    (hcalls : ∀ k, c'.callsOf k = c.callsOf k) : c'.CallsOnly known outlets := by
  refine ⟨fun kind consumer => hplaces kind ▸ h.placed kind consumer, h.lent,
    fun event hevent kind consumer hcalled => ?_⟩
  have hcall : event ∈ c'.callsOf event.stream :=
    List.mem_filter.mpr ⟨hevent, by simp [DeliveryEvent.isCall_of_consumer? hcalled]⟩
  rw [hcalls] at hcall
  exact h.called event (List.mem_filter.mp hcall).1 kind consumer hcalled

theorem note (h : c.CallsOnly known outlets) {event : DeliveryEvent}
    (hevent : ∀ kind consumer, event.consumer? = some (kind, consumer) → known kind consumer) :
    (c.note event).CallsOnly known outlets := by
  refine ⟨fun kind consumer hplace => ?_, h.lent, fun e he => ?_⟩
  · cases kind <;> exact h.placed _ consumer hplace
  · rw [Consumers.note, Array.toList_push, List.mem_append, List.mem_singleton] at he
    rcases he with hold | rfl
    · exact h.called e hold
    · exact hevent

theorem setRegistration (h : c.CallsOnly known outlets) {kind : EventKind} {r : Registration String}
    (hr : ∀ consumer, r.current = some consumer → known kind consumer) :
    (c.setRegistration kind r).CallsOnly known outlets := by
  refine ⟨fun kind' consumer hplace => ?_, h.lent, fun event hevent => ?_⟩
  · rw [setRegistration_registration] at hplace
    split at hplace
    · next heq => exact heq ▸ hr consumer hplace
    · exact h.placed kind' consumer hplace
  · rw [setRegistration_log] at hevent
    exact h.called event hevent

/-- Only the calls of the outlets matter. -/
theorem of_calls (h : c.CallsOnly known outlets)
    (hcalls : ∀ o' ∈ outlets', ∀ call, o'.eventCall = some call → known call.kind call.loan.consumer) :
    c.CallsOnly known outlets' :=
  ⟨h.placed, hcalls, h.called⟩

/-- Workers call those whom they find in their places. -/
theorem work {before after : List Outlet} {o o' : Outlet} (h : c.CallsOnly known (before ++ o :: after))
    (hwork : Work (c, o) (c', o')) : c'.CallsOnly known (before ++ o' :: after) := by
  have hreplaced : (∀ call, o'.eventCall = some call → known call.kind call.loan.consumer) →
      ∀ x ∈ before ++ o' :: after, ∀ call, x.eventCall = some call →
        known call.kind call.loan.consumer :=
    fun ho' => forall_mem_replaced h.lent fun _ => ho'
  have ho := h.lent o (List.mem_append_right _ List.mem_cons_self)
  cases hwork with
  | batchBegan _ _ _ => exact (h.note (by simp [DeliveryEvent.consumer?])).of_calls (hreplaced ho)
  | @batchEnded _ _ b _ =>
      have hcounted : ∀ counters, CallsOnly known { c with counters } (before ++ o :: after) :=
        fun _ => h.of_callsOf (fun kind => by cases kind <;> rfl) fun _ => rfl
      exact ((hcounted _).note (by simp [DeliveryEvent.consumer?])).of_calls (hreplaced ho)
  | @eventEnded _ _ call hcall =>
      refine CallsOnly.of_calls (h.setRegistration ?_) (hreplaced (by simp))
      intro consumer hplace
      unfold Registration.giveBack at hplace
      split at hplace
      · rw [← Option.some.inj hplace]
        exact ho call hcall
      · exact h.placed _ consumer hplace
  | eventBegan hbegin =>
      obtain ⟨-, -, event, rest, hoffers, hkind, hcall⟩ := Consumers.beginEvent_takes hbegin
      rcases hcall with ⟨-, rfl, rfl⟩ | ⟨consumer, hplace, rfl, rfl⟩
      · refine CallsOnly.of_calls (h.note ?_) (hreplaced ?_)
        · simp [event.consumer?_unclaimed]
        · rw [hoffers.same.2]
          exact ho
      · have hknown := h.placed _ consumer hplace
        refine CallsOnly.of_calls (CallsOnly.note (h.setRegistration (by simp)) ?_) (hreplaced ?_)
        · rintro kind' consumer' heq
          rw [event.consumer?_called, Option.some.injEq, Prod.mk.injEq] at heq
          rw [← heq.1, ← heq.2, hkind]
          exact hknown
        · rintro call hcall
          rw [← Option.some.inj hcall]
          exact hknown


theorem works {before after : List Outlet} {o : Outlet} {p : Consumers × Outlet}
    (h : c.CallsOnly known (before ++ o :: after)) (hworks : ReflTransGen Work (c, o) p) :
    p.1.CallsOnly known (before ++ p.2 :: after) := by
  induction hworks with
  | refl => exact h
  | tail _ hwork ih => exact ih.work hwork

/-- Ending calls leads to nobody new; `before` are the outlets that were visited and stay, or
wait for their turn. -/
theorem endCallsOf (chosen : Nat → Bool) (kind : ConsumerKind) (rest : List Outlet) :
    ∀ {c : Consumers} {before : List Outlet}, c.CallsOnly known (before ++ rest) →
      (c.endCallsOf chosen kind rest).1.CallsOnly known
        (before ++ (c.endCallsOf chosen kind rest).2) := by
  induction rest with
  | nil => exact fun h => h
  | cons o rest ih =>
      intro c before h
      have hvisited := h.works (c.endCallOf_works chosen kind o)
      unfold Consumers.endCallsOf
      generalize c.endCallOf chosen kind o = p at hvisited ⊢
      by_cases hbusy : p.2.isBusy
      · simp only [if_pos hbusy]
        have hall : p.1.CallsOnly known ((before ++ [p.2]) ++ rest) := by
          rwa [List.append_assoc, List.singleton_append]
        have hrest := ih hall
        rwa [List.append_assoc, List.singleton_append] at hrest
      · simp only [if_neg hbusy]
        refine ih (hvisited.of_calls fun o' ho' => hvisited.lent o' ?_)
        rw [List.mem_append, List.mem_cons]
        exact (List.mem_append.mp ho').imp_right .inr

/-- A transition was delivered to one of these. -/
theorem delivered (h : c.CallsOnly known outlets) {s : Settlement} (hs : s ∈ c.settled)
    {consumer : String} (hfate : s.fate = .delivered consumer) : known .button consumer := by
  obtain ⟨event, hevent, hs⟩ := List.mem_flatMap.mp hs
  rcases DeliveryEvent.eq_of_settled hs with ⟨consumer', rfl, hsame⟩ | ⟨-, hother⟩ | ⟨-, hother⟩ |
    ⟨batches, transitions, -, hother⟩
  · obtain rfl : consumer = consumer' := Fate.delivered.inj (hfate.symm.trans hsame)
    exact h.called _ hevent _ _ rfl
  · cases hfate.symm.trans hother
  · cases hfate.symm.trans hother
  · cases hfate.symm.trans hother

end Consumers.CallsOnly

namespace Delivery

variable {known : EventKind → String → Prop} {d : Delivery}

/-- Everybody whom the delivery side has to do with is one of these. -/
def CallsOnly (known : EventKind → String → Prop) (d : Delivery) : Prop :=
  d.toConsumers.CallsOnly known d.outlets

namespace CallsOnly

theorem register (h : d.CallsOnly known) {kind : EventKind} {consumer : String}
    (hknown : known kind consumer) : (d.register kind consumer).CallsOnly known := by
  refine Consumers.CallsOnly.setRegistration h fun consumer' hplace => ?_
  rw [← Option.some.inj hplace]
  exact hknown

theorem setHold (h : d.CallsOnly known) (kind : ConsumerKind) (on : Bool) :
    CallsOnly known { d with toConsumers := d.toConsumers.setHold kind on } :=
  Consumers.CallsOnly.of_callsOf h (fun kind => by cases kind <;> rfl) fun _ => rfl

theorem deliver (h : d.CallsOnly known) : d.deliver.CallsOnly known := by
  unfold Delivery.deliver
  cases ho : d.current with
  | none => exact h
  | some o =>
      rw [CallsOnly, outlets, ho] at h
      exact Consumers.CallsOnly.works
        (show d.toConsumers.CallsOnly known ([] ++ o :: d.retired) from h)
        (d.toConsumers.runWorkers_works o)

theorem endCalls (h : d.CallsOnly known) (chosen : Nat → Bool) (kind : ConsumerKind) :
    (d.endCalls chosen kind).CallsOnly known := by
  have hretired := Consumers.CallsOnly.endCallsOf chosen kind d.retired h
  unfold Delivery.endCalls
  generalize d.toConsumers.endCallsOf chosen kind d.retired = p at hretired ⊢
  cases ho : d.current with
  | none =>
      rw [ho] at hretired
      exact hretired
  | some o =>
      rw [ho] at hretired
      exact Consumers.CallsOnly.works
        (show p.1.CallsOnly known ([] ++ o :: p.2) from hretired)
        (p.1.endCallOf_works chosen kind o)

/-- Publishing calls nobody. -/
theorem publish (h : d.CallsOnly known) (k : Nat) (signal : Signal) :
    (d.publish k signal).CallsOnly known := by
  refine Consumers.CallsOnly.of_calls (Consumers.CallsOnly.of_callsOf h
    (congrFun (d.publish_places k signal).1) (d.publish_callsOf k signal)) ?_
  intro o' ho' call hcall
  obtain ⟨o, ho, heq⟩ := List.mem_map.mp (d.publish_eventCalls k signal ▸ List.mem_map_of_mem ho')
  exact h.lent o ho call (heq.trans hcall)

theorem publishAll (k : Nat) (signals : List Signal) :
    ∀ {d : Delivery}, d.CallsOnly known → (d.publishAll k signals).CallsOnly known := by
  induction signals with
  | nil => exact fun h => h
  | cons s rest ih => exact fun h => ih (h.publish k s)

/-- A new outlet is inside no call. -/
theorem openStream (h : d.CallsOnly known) (k capacity : Nat) :
    (d.openStream k capacity).CallsOnly known := by
  refine Consumers.CallsOnly.of_calls h fun o ho call hcall => ?_
  rcases List.mem_append.mp ho with hnew | hold
  · rw [List.mem_singleton.mp hnew] at hcall
    cases hcall
  · exact h.lent o (List.mem_append_right _ hold) call hcall

theorem closeStream (h : d.CallsOnly known) : d.closeStream.CallsOnly known := by
  refine Consumers.CallsOnly.of_calls (Consumers.CallsOnly.of_callsOf h
    (congrFun d.closeStream_places) fun k => congrArg Traffic.calls (d.closeStream_traffic k).2) ?_
  cases hcurrent : d.current with
  | none =>
      simp only [Delivery.closeStream, hcurrent]
      exact h.lent
  | some o =>
      rw [closeStream_eq hcurrent]
      intro x hx
      have ho : o ∈ d.outlets := by simp [outlets, hcurrent]
      have hretired : ∀ y ∈ d.retired, y ∈ d.outlets := fun y hy => List.mem_append_right _ hy
      rcases List.mem_append.mp hx with hnone | hmem
      · cases hnone
      · dsimp only at hmem
        split at hmem
        · rcases List.mem_append.mp hmem with hold | hclosed
          · exact h.lent x (hretired x hold)
          · rw [List.mem_singleton.mp hclosed]
            exact h.lent o ho
        · exact h.lent x (hretired x hmem)

end CallsOnly

end Delivery

end QuadDaq

import QuadDaq.Proofs.Delivery.Balance

/-!
# Streams that have ended

**What workers and consumers still do for a stream that is no longer current.** Its outlet is
closed, so its workers take up nothing more: the calls that were in progress come to their
ends when they are let, and nothing else happens (`Ended.endCalls`). The workers of other
streams do not come into it (`works_elsewhere`), and neither does what is published
(`publish_callsOf`).

`Traffic` is all of this about one stream. Of a stream that has ended it changes by
`Traffic.returning` only.
-/

namespace QuadDaq

open Relation (ReflTransGen)

/-! ### The traffic of a stream -/

/-- The entry is about a call: it begins, or finds no consumer in place, or comes to its
end. -/
def DeliveryEvent.isCall : DeliveryEvent → Bool
  | .received .. | .lost .. | .discarded .. => false
  | .batch .. | .batchDone .. | .transition .. | .transitionUnclaimed .. | .errors ..
  | .errorsUnclaimed .. => true

/-- A consumer is called. -/
def DeliveryEvent.isAdmission : DeliveryEvent → Bool
  | .batch .. | .transition .. | .errors .. => true
  | _ => false

/-- The call of an event consumer that an outlet is inside. -/
def Outlet.attending (o : Outlet) : List (Nat × EventCall) :=
  (o.eventCall.map (Prod.mk o.stream)).toList

@[simp] theorem Outlet.ofStream_calling (o : Outlet) (k : Nat) :
    ofStream k o.calling = if o.stream = k then o.dataCall.toList else [] := by
  cases hcall : o.dataCall <;> simp [calling, hcall]

@[simp] theorem Outlet.ofStream_attending (o : Outlet) (k : Nat) :
    ofStream k o.attending = if o.stream = k then o.eventCall.toList else [] := by
  cases hcall : o.eventCall <;> simp [attending, hcall]

/-- The consumers that are called with events of a kind. -/
def EventKind.consumer : EventKind → ConsumerKind
  | .button => .button
  | .error => .error

/-- What workers and consumers do for a stream. -/
structure Traffic where
  /-- What was logged about its calls. -/
  calls : List DeliveryEvent
  /-- The batches that the data consumer is inside calls with. -/
  batches : List Batch
  /-- The calls that event consumers are inside. -/
  events : List EventCall

/-- The calls of some kinds come to their ends. Only the end of a data call is logged. -/
def Traffic.returning (k : Nat) (returns : ConsumerKind → Bool) (t : Traffic) : Traffic where
  calls := t.calls ++ if returns .data then t.batches.map (.batchDone k) else []
  batches := if returns .data then [] else t.batches
  events := t.events.filter fun call => !returns call.kind.consumer

namespace Traffic

variable (t : Traffic) (k : Nat)

@[simp] theorem returning_none : t.returning k (fun _ => false) = t := by
  have hevents : t.events.filter (fun _ => !false) = t.events :=
    List.filter_eq_self.mpr fun _ _ => rfl
  simp only [returning, Bool.false_eq_true, if_false, List.append_nil, hevents]

@[simp] theorem returning_returning (p q : ConsumerKind → Bool) :
    (t.returning k p).returning k q = t.returning k (fun kind => p kind || q kind) := by
  have hevents : ∀ call ∈ t.events, (!q call.kind.consumer && !p call.kind.consumer) =
      !(p call.kind.consumer || q call.kind.consumer) := by
    intro call _
    rw [Bool.not_or, Bool.and_comm]
  simp only [returning, List.filter_filter, List.filter_congr hevents]
  by_cases hp : p .data = true
  · simp [hp]
  · by_cases hq : q .data = true <;> simp [hp, hq]

end Traffic

namespace Consumers

/-- What was logged about the calls of a stream. -/
def callsOf (c : Consumers) (k : Nat) : List DeliveryEvent :=
  c.log.toList.filter fun event => event.isCall && event.stream == k

/-- The calls that began for a stream. -/
def admittedOf (c : Consumers) (k : Nat) : List DeliveryEvent :=
  c.log.toList.filter fun event => event.isAdmission && event.stream == k

theorem admittedOf_eq (c : Consumers) (k : Nat) :
    c.admittedOf k = (c.callsOf k).filter DeliveryEvent.isAdmission := by
  rw [callsOf, List.filter_filter, admittedOf]
  refine List.filter_congr fun event _ => ?_
  cases event <;> simp [DeliveryEvent.isAdmission, DeliveryEvent.isCall]

theorem admittedOf_congr {c c' : Consumers} {k : Nat} (h : c'.callsOf k = c.callsOf k) :
    c'.admittedOf k = c.admittedOf k := by
  rw [admittedOf_eq, admittedOf_eq, h]

/-- What workers and consumers do for a stream, given the outlets. -/
def trafficOf (c : Consumers) (outlets : List Outlet) (k : Nat) : Traffic where
  calls := c.callsOf k
  batches := ofStream k (outlets.flatMap Outlet.calling)
  events := ofStream k (outlets.flatMap Outlet.attending)

section Log

variable {c c' : Consumers} {k : Nat}

/-- Other entries, and those about other streams, do not matter. -/
theorem callsOf_of_log {added : List DeliveryEvent} (hlog : c'.log.toList = c.log.toList ++ added)
    (hadded : ∀ event ∈ added, event.isCall = false ∨ event.stream ≠ k) :
    c'.callsOf k = c.callsOf k := by
  have hnone : added.filter (fun event => event.isCall && event.stream == k) = [] := by
    rw [List.filter_eq_nil_iff]
    intro event hevent
    rcases hadded event hevent with hcall | hstream
    · simp [hcall]
    · simp [hstream]
  rw [callsOf, hlog, List.filter_append, hnone, List.append_nil, ← callsOf]

theorem note_callsOf {event : DeliveryEvent} (h : event.isCall = false ∨ event.stream ≠ k) :
    (c.note event).callsOf k = c.callsOf k :=
  callsOf_of_log Array.toList_push (by simpa using h)

theorem batchDone_callsOf (b : Batch) :
    (c.batchDone k b).callsOf k = c.callsOf k ++ [.batchDone k b] := by
  simp [callsOf, batchDone, note, DeliveryEvent.isCall, DeliveryEvent.stream]

theorem setRegistration_callsOf (kind : EventKind) (r : Registration String) :
    (c.setRegistration kind r).callsOf k = c.callsOf k := by
  rw [callsOf, setRegistration_log, ← callsOf]

end Log

end Consumers

/-! ### Workers -/

/-- Whatever the workers of an outlet do is no matter of other streams. -/
theorem works_elsewhere {p q : Consumers × Outlet} (h : ReflTransGen Work p q) {k : Nat}
    (hk : p.2.stream ≠ k) : q.1.callsOf k = p.1.callsOf k := by
  induction h with
  | refl => rfl
  | @tail q r hworks hwork ih =>
      obtain ⟨⟨added, hlog, hadded⟩, -⟩ := hwork.log
      rw [Consumers.callsOf_of_log hlog fun event hevent => .inr ?_, ih]
      rw [hadded event hevent, (works_closed_eq hworks).2]
      exact hk

namespace Consumers

variable {c : Consumers} {o : Outlet} {outlets : List Outlet} {k : Nat}

/-- An outlet of another stream does not matter, and neither does one without any call. -/
theorem trafficOf_of_aside (before after : List Outlet) (h : o.stream ≠ k ∨ o.isBusy = false) :
    c.trafficOf (before ++ o :: after) k = c.trafficOf (before ++ after) k := by
  have hnone : ofStream k o.calling = [] ∧ ofStream k o.attending = [] := by
    rcases h with hk | hidle
    · simp [hk]
    · obtain ⟨hdata, hevent⟩ := Bool.or_eq_false_iff.mp hidle
      simp_all
  simp only [trafficOf, List.flatMap_append, List.flatMap_cons, ofStream_append, hnone.1, hnone.2,
    List.nil_append]

theorem trafficOf_singleton (c : Consumers) (o : Outlet) : c.trafficOf [o] o.stream =
    ⟨c.callsOf o.stream, o.dataCall.toList, o.eventCall.toList⟩ := by
  simp [trafficOf]

theorem endBatch_traffic (c : Consumers) (o : Outlet) :
    (c.endBatch o).1.trafficOf [(c.endBatch o).2] o.stream =
      (c.trafficOf [o] o.stream).returning o.stream (· == .data) := by
  have hevents : o.eventCall.toList.filter (fun call => !(call.kind.consumer == .data)) =
      o.eventCall.toList := by
    refine List.filter_eq_self.mpr fun call _ => ?_
    cases call.kind <;> rfl
  rw [trafficOf_singleton, Traffic.returning, hevents]
  unfold endBatch
  cases hcall : o.dataCall with
  | none => simp [trafficOf_singleton, hcall]
  | some b =>
      refine (trafficOf_singleton _ { o with dataCall := none }).trans ?_
      simp [batchDone_callsOf]

theorem endEvent_traffic (kind : EventKind) (c : Consumers) (o : Outlet) :
    (c.endEvent kind o).1.trafficOf [(c.endEvent kind o).2] o.stream =
      (c.trafficOf [o] o.stream).returning o.stream (· == kind.consumer) := by
  have hdata : (ConsumerKind.data == kind.consumer) = false := by cases kind <;> rfl
  have hkinds : ∀ kind', (EventKind.consumer kind' == kind.consumer) = (kind' == kind) := by
    intro kind'
    cases kind' <;> cases kind <;> rfl
  rw [trafficOf_singleton, Traffic.returning]
  simp only [hdata, hkinds]
  unfold endEvent
  cases hcall : o.eventCall with
  | none => simp [trafficOf_singleton, hcall]
  | some call =>
      by_cases hkind : call.kind = kind
      · simp only [if_pos hkind]
        refine (trafficOf_singleton _ { o with eventCall := none }).trans ?_
        simp [eventDone, setRegistration_callsOf, hkind]
      · simp [trafficOf_singleton, hcall, hkind]

/-- A call that comes to its end leaves the other calls of its stream as they are. -/
theorem endCall_traffic (kind : ConsumerKind) (c : Consumers) (o : Outlet) :
    (c.endCall kind o).1.trafficOf [(c.endCall kind o).2] o.stream =
      (c.trafficOf [o] o.stream).returning o.stream (· == kind) := by
  cases kind with
  | data => exact endBatch_traffic c o
  | button => exact endEvent_traffic .button c o
  | error => exact endEvent_traffic .error c o

/-- The workers of a closed outlet take up nothing. -/
theorem runWorkers_of_closed (h : o.closed = true) : c.runWorkers o = (c, o) := by
  simp [runWorkers, runData, runEvents, beginBatch, beginEvent, h]

/-- On a closed outlet nothing but the call ends that is let. -/
theorem endCallOf_of_closed (chosen : Nat → Bool) (kind : ConsumerKind) (h : o.closed = true) :
    c.endCallOf chosen kind o = if chosen o.stream then c.endCall kind o else (c, o) := by
  unfold endCallOf
  by_cases hchosen : chosen o.stream = true
  · rw [if_pos hchosen]
    exact runWorkers_of_closed ((works_closed_eq (endCall_works kind c o)).1.trans h)
  · rw [if_neg hchosen]
    exact runWorkers_of_closed h

theorem endCallOf_traffic (chosen : Nat → Bool) (kind : ConsumerKind) (h : o.closed = true)
    (k : Nat) : (c.endCallOf chosen kind o).1.trafficOf [(c.endCallOf chosen kind o).2] k =
      (c.trafficOf [o] k).returning k (fun kind' => chosen k && kind' == kind) := by
  have hworks := endCallOf_works chosen kind c o
  by_cases hk : o.stream = k
  · rw [endCallOf_of_closed chosen kind h, hk]
    cases hchosen : chosen k with
    | false => simp
    | true =>
        simp only [if_true, Bool.true_and]
        rw [← hk]
        exact endCall_traffic kind c o
  · have hk' : (c.endCallOf chosen kind o).2.stream ≠ k := by
      rwa [(works_closed_eq hworks).2]
    have hnone : ∀ (c : Consumers) (o : Outlet), o.stream ≠ k →
        c.trafficOf [o] k = ⟨c.callsOf k, [], []⟩ :=
      fun _ _ hne => trafficOf_of_aside [] [] (.inl hne)
    rw [hnone _ _ hk, hnone _ _ hk']
    simp [Traffic.returning, works_elsewhere hworks hk]

/-- Once visited, closed outlets have their calls that were let end behind them. -/
theorem endCallsOf_traffic (chosen : Nat → Bool) (kind : ConsumerKind) (k : Nat) :
    ∀ (c : Consumers) (outlets : List Outlet), (∀ o ∈ outlets, o.closed = true) →
      (c.endCallsOf chosen kind outlets).1.trafficOf (c.endCallsOf chosen kind outlets).2 k =
        (c.trafficOf outlets k).returning k (fun kind' => chosen k && kind' == kind) := by
  intro c outlets
  induction outlets generalizing c with
  | nil => simp [endCallsOf, trafficOf, Traffic.returning]
  | cons o rest ih =>
      intro hclosed
      obtain ⟨ho, hrest⟩ := List.forall_mem_cons.mp hclosed
      have hhead := endCallOf_traffic (c := c) chosen kind ho k
      unfold endCallsOf
      generalize c.endCallOf chosen kind o = p at hhead ⊢
      have htail := ih p.1 hrest
      simp only
      generalize p.1.endCallsOf chosen kind rest = q at htail ⊢
      -- Whether the outlet stays or is let go makes no difference to the traffic.
      have hstays : q.1.trafficOf (if p.2.isBusy then p.2 :: q.2 else q.2) k =
          q.1.trafficOf (p.2 :: q.2) k := by
        split
        · rfl
        · next hidle => exact (trafficOf_of_aside [] q.2 (.inr (by simpa using hidle))).symm
      rw [hstays]
      simp only [trafficOf, Traffic.returning, Traffic.mk.injEq, List.flatMap_cons, List.flatMap_nil,
        List.append_nil, ofStream_append, List.filter_append] at hhead htail ⊢
      obtain ⟨hcalls, hbatches, hevents⟩ := hhead
      obtain ⟨hcalls', hbatches', hevents'⟩ := htail
      rw [hcalls', hcalls, hbatches, hbatches', hevents, hevents']
      refine ⟨?_, ?_, rfl⟩
      · split <;> simp
      · split <;> simp

end Consumers

/-- A worker of a closed outlet calls nobody. -/
theorem Work.admittedOf_of_closed {c c' : Consumers} {o o' : Outlet} (h : Work (c, o) (c', o'))
    (hclosed : o.closed = true) (k : Nat) : c'.admittedOf k = c.admittedOf k := by
  cases h with
  | batchBegan hopen _ _ => simp [hclosed] at hopen
  | batchEnded _ =>
      simp [Consumers.admittedOf, Consumers.batchDone, Consumers.note, DeliveryEvent.isAdmission]
  | eventBegan hbegin => simp [Consumers.beginEvent, hclosed] at hbegin
  | eventEnded _ => exact Consumers.admittedOf_congr (Consumers.setRegistration_callsOf _ _)

/-! ### The delivery side -/

namespace Delivery

/-- What workers and consumers do for a stream. -/
def trafficOf (d : Delivery) (k : Nat) : Traffic :=
  d.toConsumers.trafficOf (d.retired ++ d.current.toList) k

/-- The stream has no current outlet, or no longer has one. -/
def Ended (k : Nat) (d : Delivery) : Prop := ∀ o, d.current = some o → o.stream ≠ k

variable {d : Delivery} {k : Nat}

/-- The calls of a stream that has ended are those of its retired outlet. -/
theorem Ended.trafficOf (h : d.Ended k) : d.trafficOf k = d.toConsumers.trafficOf d.retired k := by
  unfold Delivery.trafficOf
  cases ho : d.current with
  | none => rw [Option.toList_none, List.append_nil]
  | some o =>
      rw [Option.toList_some, Consumers.trafficOf_of_aside d.retired [] (.inl (h o ho)),
        List.append_nil]

theorem Ended.of_current {d' : Delivery} (h : d.Ended k)
    (hcurrent : d'.current.map Outlet.stream = d.current.map Outlet.stream) : d'.Ended k := by
  intro o' ho'
  rw [ho', Option.map_some] at hcurrent
  obtain ⟨o, ho, hstream⟩ := Option.map_eq_some_iff.mp hcurrent.symm
  rw [← hstream]
  exact h o ho

/-- Where neither the retired outlets nor the calls that were logged change, there is no
traffic. -/
theorem Ended.traffic_of_frame {d' : Delivery} (h : d.Ended k)
    (hcurrent : d'.current.map Outlet.stream = d.current.map Outlet.stream)
    (hretired : d'.retired = d.retired)
    (hcalls : d'.toConsumers.callsOf k = d.toConsumers.callsOf k) :
    d'.trafficOf k = d.trafficOf k := by
  rw [h.trafficOf, (h.of_current hcurrent).trafficOf, hretired]
  simp only [Consumers.trafficOf, hcalls]

/-! Publications are no calls, whichever stream they come from. -/

theorem forfeit_callsOf (c : Consumers) (j : Nat) (signal : Signal) (k : Nat) :
    (forfeit c j signal).callsOf k = c.callsOf k := by
  cases signal with
  | batch b => exact Consumers.note_callsOf (.inl rfl)
  | transition t => exact Consumers.note_callsOf (.inl rfl)
  | error code message => rfl

theorem lose_callsOf (c : Consumers) (j : Nat) (loss : Option Loss) (k : Nat) :
    (c.lose j loss).callsOf k = c.callsOf k := by
  rcases loss with _ | (b | t)
  · rfl
  · exact Consumers.note_callsOf (.inl rfl)
  · exact Consumers.note_callsOf (.inl rfl)

theorem publish_callsOf (d : Delivery) (j : Nat) (signal : Signal) (k : Nat) :
    (d.publish j signal).toConsumers.callsOf k = d.toConsumers.callsOf k := by
  have hreceived : (d.note (.received j signal)).callsOf k = d.toConsumers.callsOf k :=
    Consumers.note_callsOf (.inl rfl)
  unfold publish
  cases d.current with
  | none => exact (forfeit_callsOf _ j signal k).trans hreceived
  | some o =>
      by_cases hj : o.stream = j
      · simp only [if_pos hj]
        exact (lose_callsOf _ j _ k).trans hreceived
      · simp only [if_neg hj]
        exact (forfeit_callsOf _ j signal k).trans hreceived

theorem Ended.publishAll (h : d.Ended k) (j : Nat) (signals : List Signal) :
    (d.publishAll j signals).Ended k ∧ (d.publishAll j signals).trafficOf k = d.trafficOf k := by
  induction signals generalizing d with
  | nil => exact ⟨h, rfl⟩
  | cons s rest ih =>
      have hcurrent := publish_current_stream d j s
      obtain ⟨hended, htraffic⟩ := ih (h.of_current hcurrent)
      refine ⟨hended, htraffic.trans ?_⟩
      exact h.traffic_of_frame hcurrent (d.publish_frame j s).retired (d.publish_callsOf j s k)

theorem Ended.deliver (h : d.Ended k) :
    d.deliver.Ended k ∧ d.deliver.trafficOf k = d.trafficOf k := by
  unfold Delivery.deliver
  cases ho : d.current with
  | none => exact ⟨h, rfl⟩
  | some o =>
      have hworks := Consumers.runWorkers_works d.toConsumers o
      have hcurrent : (some (d.toConsumers.runWorkers o).2).map Outlet.stream =
          d.current.map Outlet.stream := by
        rw [ho, Option.map_some, Option.map_some, (works_closed_eq hworks).2]
      exact ⟨h.of_current hcurrent,
        h.traffic_of_frame hcurrent rfl (works_elsewhere hworks (h o ho))⟩

/-- A stream that opens has nothing to do with one that has ended. -/
theorem Ended.openStream (h : d.Ended k) {j : Nat} (hj : j ≠ k) (capacity : Nat) :
    (d.openStream j capacity).Ended k ∧ (d.openStream j capacity).trafficOf k = d.trafficOf k := by
  have hended : (d.openStream j capacity).Ended k := by
    intro o ho
    rwa [← Option.some.inj ho]
  rw [h.trafficOf, hended.trafficOf]
  exact ⟨hended, rfl⟩

/-- With the current stream closed every stream has ended, and its calls go on. -/
theorem closeStream_traffic (d : Delivery) (k : Nat) :
    d.closeStream.Ended k ∧ d.closeStream.trafficOf k = d.trafficOf k := by
  refine ⟨fun o ho => absurd (ho.symm.trans d.closeStream_current) (by simp), ?_⟩
  cases ho : d.current with
  | none => simp only [closeStream, ho]
  | some o =>
      have hcalls : (d.note (.discarded o.stream o.batches.items o.transitions.items)).callsOf k =
          d.toConsumers.callsOf k := Consumers.note_callsOf (.inl rfl)
      rw [closeStream_eq ho]
      simp only [trafficOf, ho, Option.toList_none, Option.toList_some, List.append_nil]
      by_cases hbusy : o.isBusy
      · rw [if_pos hbusy]
        simp [Consumers.trafficOf, hcalls, Outlet.close]
      · rw [if_neg hbusy, Consumers.trafficOf_of_aside d.retired [] (.inr (by simpa using hbusy)),
          List.append_nil]
        simp only [Consumers.trafficOf, hcalls]

/-- Of a stream that has ended, the calls in progress end that are let, and nothing else
happens. -/
theorem Ended.endCalls (h : d.Ended k) (ht : d.Tidy) (chosen : Nat → Bool) (kind : ConsumerKind) :
    (d.endCalls chosen kind).Ended k ∧
      (d.endCalls chosen kind).trafficOf k =
        (d.trafficOf k).returning k fun kind' => chosen k && kind' == kind := by
  have hretired := Consumers.endCallsOf_traffic chosen kind k d.toConsumers d.retired
    fun o ho => (ht.retired o ho).1
  rw [h.trafficOf]
  unfold Delivery.endCalls
  generalize d.toConsumers.endCallsOf chosen kind d.retired = p at hretired ⊢
  cases ho : d.current with
  | none =>
      have hended : ({ toConsumers := p.1, current := none, retired := p.2 } : Delivery).Ended k := by
        intro o ho
        cases ho
      exact ⟨hended, hended.trafficOf.trans hretired⟩
  | some o =>
      have hworks := Consumers.endCallOf_works chosen kind p.1 o
      simp only
      generalize p.1.endCallOf chosen kind o = q at hworks ⊢
      have hended : ({ toConsumers := q.1, current := some q.2, retired := p.2 } :
          Delivery).Ended k := by
        refine h.of_current ?_
        rw [ho, Option.map_some, Option.map_some, (works_closed_eq hworks).2]
      refine ⟨hended, hended.trafficOf.trans (Eq.trans ?_ hretired)⟩
      simp only [Consumers.trafficOf, works_elsewhere hworks (h o ho)]

/-- However the workers are scheduled, those of a stream that has ended call nobody. -/
theorem Ended.turn {d' : Delivery} (h : d.Ended k) (ht : d.Tidy) (hturn : Turn d d') :
    d'.Ended k ∧ d'.admittedOf k = d.admittedOf k := by
  refine ⟨h.of_current hturn.current_stream, ?_⟩
  cases hturn with
  | worked ho hwork => exact Consumers.admittedOf_congr (works_elsewhere (.single hwork) (h _ ho))
  | @workedRetired before after o o' c' hr hwork =>
      have hclosed : o.closed = true :=
        (ht.retired o (by rw [hr]; exact List.mem_append_right _ List.mem_cons_self)).1
      exact hwork.admittedOf_of_closed hclosed k
  | letGo _ _ => rfl
  | registered kind consumer =>
      exact Consumers.admittedOf_congr (Consumers.setRegistration_callsOf _ _)
  | held kind on => rfl

end Delivery

end QuadDaq

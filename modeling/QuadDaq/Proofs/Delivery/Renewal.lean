import QuadDaq.Proofs.Delivery.Ended

/-!
# Delivery after earlier streams

**What earlier streams left behind does not show in what is delivered later.** The delivery
side `c.later …` has gone through the same as `c`, but after other streams: its streams have
greater numbers, its places more registrations behind them, its counters and its log start
with what was there before, and it may keep calls of earlier streams that have not returned.
Everything that happens to `c` happens to it just the same (`publishAll_later` and so on),
as long as the earlier calls are let be (`endCalls_later`).
-/

namespace QuadDaq

/-- Counts of both. -/
instance : Add DeliveryCounters where
  add n m :=
    { rowsDelivered := n.rowsDelivered + m.rowsDelivered
      batchesDelivered := n.batchesDelivered + m.batchesDelivered
      droppedBatches := n.droppedBatches + m.droppedBatches
      droppedEvents := n.droppedEvents + m.droppedEvents }

theorem DeliveryCounters.add_def (n m : DeliveryCounters) :
    n + m =
      { rowsDelivered := n.rowsDelivered + m.rowsDelivered
        batchesDelivered := n.batchesDelivered + m.batchesDelivered
        droppedBatches := n.droppedBatches + m.droppedBatches
        droppedEvents := n.droppedEvents + m.droppedEvents } := rfl

/-! ### Later places, calls and outlets -/

namespace Registration

variable {γ : Type}

/-- The same place after so many more registrations. -/
def later (generations : Nat) (r : Registration γ) : Registration γ :=
  { r with generation := generations + r.generation }

end Registration

/-- The same loan from a place after so many more registrations. -/
def Loan.later {γ : Type} (generations : Nat) (loan : Loan γ) : Loan γ :=
  { loan with generation := generations + loan.generation }

namespace Registration

variable {γ : Type} (generations : Nat) (r : Registration γ)

theorem set_later (consumer : γ) :
    (r.later generations).set consumer = (r.set consumer).later generations := rfl

theorem lend_later :
    (r.later generations).lend =
      (r.lend.1.later generations, r.lend.2.map (Loan.later generations)) := by
  simp only [lend, later, Option.map_map]
  rfl

/-- Whether a loan is of the latest generation does not depend on how many were before. -/
theorem giveBack_later (loan : Loan γ) :
    (r.later generations).giveBack (loan.later generations) =
      (r.giveBack loan).later generations := by
  simp only [giveBack, later, Loan.later, Nat.add_left_cancel_iff]
  split <;> rfl

end Registration

/-- The same event of a stream that has so many more before it. -/
def DeliveryEvent.later (streams : Nat) : DeliveryEvent → DeliveryEvent
  | received k signal => received (streams + k) signal
  | batch k b dropped => batch (streams + k) b dropped
  | batchDone k b => batchDone (streams + k) b
  | transition k consumer t => transition (streams + k) consumer t
  | transitionUnclaimed k t => transitionUnclaimed (streams + k) t
  | errors k consumer errs => errors (streams + k) consumer errs
  | errorsUnclaimed k errs => errorsUnclaimed (streams + k) errs
  | lost k loss => lost (streams + k) loss
  | discarded k batches transitions => discarded (streams + k) batches transitions

/-- The same consumers after `before`, of which these many streams are told. -/
def Consumers.later (before : Consumers) (streams : Nat) (c : Consumers) : Consumers where
  buttonConsumer := c.buttonConsumer.later before.buttonConsumer.generation
  errorConsumer := c.errorConsumer.later before.errorConsumer.generation
  holds := c.holds
  counters := before.counters + c.counters
  log := before.log ++ c.log.map (DeliveryEvent.later streams)

/-- The same call of a consumer whose place had the registrations of `before`. -/
def EventCall.later (before : Consumers) (call : EventCall) : EventCall :=
  { call with loan := call.loan.later (before.registration call.kind).generation }

/-- The same outlet of a stream that has so many more before it. -/
def Outlet.later (before : Consumers) (streams : Nat) (o : Outlet) : Outlet :=
  { o with
    stream := streams + o.stream
    eventCall := o.eventCall.map (EventCall.later before) }

namespace Outlet

variable (before : Consumers) (streams : Nat) (o : Outlet)

theorem isBusy_later : (o.later before streams).isBusy = o.isBusy := by
  simp only [isBusy, later, Option.isSome_map]

theorem publish_later (signal : Signal) :
    (o.later before streams).publish signal =
      ((o.publish signal).1.later before streams, (o.publish signal).2) := by
  cases signal with
  | error code message => rfl
  | batch b =>
      simp only [publish, publishBatch, later]
      obtain ⟨batches, evicted⟩ := o.batches.push b
      cases evicted <;> rfl
  | transition t =>
      simp only [publish, publishTransition, later]
      obtain ⟨transitions, evicted⟩ := o.transitions.push t
      cases evicted <;> rfl

theorem takeBatch_later :
    (o.later before streams).takeBatch =
      (o.takeBatch.1.later before streams, o.takeBatch.2) := by
  simp only [takeBatch, later]
  obtain ⟨batches, taken⟩ := o.batches.pop
  cases taken <;> rfl

theorem takeTransition_later :
    (o.later before streams).takeTransition =
      (o.takeTransition.1.later before streams, o.takeTransition.2) := rfl

theorem takeErrors_later :
    (o.later before streams).takeErrors =
      (o.takeErrors.1.later before streams, o.takeErrors.2) := by
  have herrors : (o.later before streams).errors = o.errors := rfl
  rw [takeErrors, takeErrors, herrors]
  split <;> rfl

end Outlet

/-! ### Later consumers -/

namespace Consumers

variable (before : Consumers) (streams : Nat) (c : Consumers)

theorem note_later (event : DeliveryEvent) :
    (before.later streams c).note (event.later streams) =
      before.later streams (c.note event) := by
  simp only [note, later, Array.map_push, Array.append_push]

theorem registration_later (kind : EventKind) :
    (before.later streams c).registration kind =
      (c.registration kind).later (before.registration kind).generation := by
  cases kind <;> rfl

theorem setRegistration_later (kind : EventKind) (r : Registration String) :
    (before.later streams c).setRegistration kind
        (r.later (before.registration kind).generation) =
      before.later streams (c.setRegistration kind r) := by
  cases kind <;> rfl

theorem register_later (kind : EventKind) (consumer : String) :
    (before.later streams c).register kind consumer =
      before.later streams (c.register kind consumer) := by
  simp only [register, registration_later, Registration.set_later, setRegistration_later]

/-- Counting on from some counts is counting from zero and adding. -/
theorem lose_later (k : Nat) (loss : Option Loss) :
    (before.later streams c).lose (streams + k) loss =
      before.later streams (c.lose k loss) := by
  rcases loss with _ | b | t
  · rfl
  · exact before.note_later streams
      { c with counters := { c.counters with droppedBatches := c.counters.droppedBatches + 1 } }
      (.lost k (.batch b))
  · exact before.note_later streams
      { c with counters := { c.counters with droppedEvents := c.counters.droppedEvents + 1 } }
      (.lost k (.transition t))

/-! ### Workers -/

variable (o : Outlet)

theorem beginBatch_later :
    (before.later streams c).beginBatch (o.later before streams) =
      (c.beginBatch o).map fun p => (before.later streams p.1, p.2.later before streams) := by
  have hbusy : ((o.later before streams).closed || (o.later before streams).dataCall.isSome) =
      (o.closed || o.dataCall.isSome) := rfl
  simp only [beginBatch, hbusy, o.takeBatch_later]
  cases o.closed || o.dataCall.isSome with
  | true => rfl
  | false =>
      rcases o.takeBatch with ⟨rest, _ | ⟨b, dropped⟩⟩
      · rfl
      · exact congrArg (fun consumers => some (consumers, _))
          (before.note_later streams c (.batch rest.stream b dropped))

theorem batchDone_later (k : Nat) (b : Batch) :
    (before.later streams c).batchDone (streams + k) b =
      before.later streams (c.batchDone k b) := by
  simp only [batchDone, ← note_later]
  have hrows : before.counters.rowsDelivered + c.counters.rowsDelivered + b.size =
      before.counters.rowsDelivered + (c.counters.rowsDelivered + b.size) := Nat.add_assoc _ _ _
  simp only [later, DeliveryCounters.add_def, hrows]
  rfl

theorem endBatch_later :
    (before.later streams c).endBatch (o.later before streams) =
      (before.later streams (c.endBatch o).1, (c.endBatch o).2.later before streams) := by
  have hcall : (o.later before streams).dataCall = o.dataCall := rfl
  rw [endBatch, endBatch, hcall]
  cases o.dataCall with
  | none => rfl
  | some b => exact congrArg (·, _) (before.batchDone_later streams c o.stream b)

theorem runData_later (m : Nat) : ∀ (c : Consumers) (o : Outlet),
    (before.later streams c).runData m (o.later before streams) =
      (before.later streams (c.runData m o).1, (c.runData m o).2.later before streams) := by
  induction m with
  | zero => exact fun c o => rfl
  | succ m ih =>
      intro c o
      rw [runData, runData, beginBatch_later]
      cases c.beginBatch o with
      | none => rfl
      | some p =>
          have hholds : (before.later streams p.1).holds = p.1.holds := rfl
          simp only [Option.map_some, hholds, endBatch_later, ih]
          split <;> rfl

theorem beginCall_later (kind : EventKind) {called called' : String → DeliveryEvent}
    {unclaimed unclaimed' : DeliveryEvent} (hcalled : ∀ consumer, called' consumer = (called consumer).later streams)
    (hunclaimed : unclaimed' = unclaimed.later streams) :
    (before.later streams c).beginCall (o.later before streams) kind called' unclaimed' =
      (before.later streams (c.beginCall o kind called unclaimed).1,
        (c.beginCall o kind called unclaimed).2.later before streams) := by
  simp only [beginCall, registration_later, Registration.lend_later, hcalled, hunclaimed]
  cases (c.registration kind).lend with
  | mk place loan =>
      cases loan with
      | none => simp only [Option.map_none, note_later]
      | some loan =>
          simp only [Option.map_some, setRegistration_later, Loan.later, note_later]
          rfl

theorem beginEvent_later :
    (before.later streams c).beginEvent (o.later before streams) =
      (c.beginEvent o).map fun p => (p.1, before.later streams p.2.1, p.2.2.later before streams) := by
  have hcalling : (o.later before streams).eventCall.isSome = o.eventCall.isSome :=
    Option.isSome_map
  have hclosed : (o.later before streams).closed = o.closed := rfl
  simp only [beginEvent, hcalling, hclosed, o.takeTransition_later, o.takeErrors_later]
  cases o.closed || o.eventCall.isSome with
  | true => rfl
  | false =>
      rcases o.takeTransition with ⟨rest, _ | t⟩
      · rcases o.takeErrors with ⟨rest, _ | errors⟩
        · rfl
        · exact congrArg (fun p => some (EventKind.error, p))
            (before.beginCall_later streams c rest .error (fun _ => rfl) rfl)
      · exact congrArg (fun p => some (EventKind.button, p))
          (before.beginCall_later streams c rest .button (fun _ => rfl) rfl)

theorem eventDone_later (call : EventCall) :
    (before.later streams c).eventDone (call.later before) =
      before.later streams (c.eventDone call) := by
  simp only [eventDone, EventCall.later, registration_later, Registration.giveBack_later,
    setRegistration_later]

theorem endEvent_later (kind : EventKind) :
    (before.later streams c).endEvent kind (o.later before streams) =
      (before.later streams (c.endEvent kind o).1, (c.endEvent kind o).2.later before streams) := by
  cases hcall : o.eventCall with
  | none => simp only [endEvent, Outlet.later, hcall, Option.map_none]
  | some call =>
      simp only [endEvent, Outlet.later, hcall, Option.map_some, eventDone_later]
      have hkind : (call.later before).kind = call.kind := rfl
      rw [hkind]
      split
      · rfl
      · simp only [hcall, Option.map_some]

theorem runEvents_later (m : Nat) : ∀ (c : Consumers) (o : Outlet),
    (before.later streams c).runEvents m (o.later before streams) =
      (before.later streams (c.runEvents m o).1, (c.runEvents m o).2.later before streams) := by
  induction m with
  | zero => exact fun c o => rfl
  | succ m ih =>
      intro c o
      rw [runEvents, runEvents, beginEvent_later]
      cases c.beginEvent o with
      | none => rfl
      | some p =>
          obtain ⟨kind, c, o⟩ := p
          have hholds : (before.later streams c).holds = c.holds := rfl
          simp only [Option.map_some, hholds, endEvent_later]
          cases c.holds.event kind
          · exact ih _ _
          · exact ih _ _

theorem runWorkers_later :
    (before.later streams c).runWorkers (o.later before streams) =
      (before.later streams (c.runWorkers o).1, (c.runWorkers o).2.later before streams) := by
  have hbatches : (o.later before streams).batches = o.batches := rfl
  simp only [runWorkers, hbatches, runData_later]
  exact before.runEvents_later streams _ _ _

theorem endCall_later (kind : ConsumerKind) :
    (before.later streams c).endCall kind (o.later before streams) =
      (before.later streams (c.endCall kind o).1, (c.endCall kind o).2.later before streams) := by
  cases kind with
  | data => exact before.endBatch_later streams c o
  | button => exact before.endEvent_later streams c o .button
  | error => exact before.endEvent_later streams c o .error

/-- If the choice goes by how many streams there were since, so does what ends. -/
theorem endCallOf_later {chosen chosen' : Nat → Bool}
    (hchosen : ∀ k, chosen' (streams + k) = chosen k) (kind : ConsumerKind) :
    (before.later streams c).endCallOf chosen' kind (o.later before streams) =
      (before.later streams (c.endCallOf chosen kind o).1,
        (c.endCallOf chosen kind o).2.later before streams) := by
  have hstream : chosen' (o.later before streams).stream = chosen o.stream := hchosen o.stream
  simp only [endCallOf, hstream, endCall_later]
  split <;> exact before.runWorkers_later streams _ _

theorem endCallsOf_later {chosen chosen' : Nat → Bool}
    (hchosen : ∀ k, chosen' (streams + k) = chosen k) (kind : ConsumerKind)
    (outlets : List Outlet) : ∀ c : Consumers,
    (before.later streams c).endCallsOf chosen' kind (outlets.map (Outlet.later before streams)) =
      (before.later streams (c.endCallsOf chosen kind outlets).1,
        (c.endCallsOf chosen kind outlets).2.map (Outlet.later before streams)) := by
  induction outlets with
  | nil => exact fun c => rfl
  | cons o rest ih =>
      intro c
      simp only [List.map_cons, endCallsOf, before.endCallOf_later streams c o hchosen, ih,
        Outlet.isBusy_later]
      split <;> rfl

end Consumers

/-- The outlet is closed, and the end of these calls does not concern it. -/
structure Outlet.LetBe (chosen : Nat → Bool) (kind : ConsumerKind) (o : Outlet) : Prop where
  closed : o.closed = true
  eventCall : o.eventCall = none
  dataCall : chosen o.stream = true → kind = .data → o.dataCall = none

namespace Consumers

theorem endCallOf_of_letBe {chosen : Nat → Bool} {kind : ConsumerKind} {o : Outlet}
    (h : o.LetBe chosen kind) (c : Consumers) : c.endCallOf chosen kind o = (c, o) := by
  rw [endCallOf_of_closed chosen kind h.closed]
  split
  · next hchosen =>
      cases kind with
      | data => simp only [endCall, endBatch, h.dataCall hchosen rfl]
      | button => simp only [endCall, endEvent, h.eventCall]
      | error => simp only [endCall, endEvent, h.eventCall]
  · rfl

/-- Outlets that are let be make no difference to those after them. -/
theorem endCallsOf_of_letBe {chosen : Nat → Bool} {kind : ConsumerKind} {left : List Outlet}
    (h : ∀ o ∈ left, o.LetBe chosen kind) (c : Consumers) (rest : List Outlet) :
    c.endCallsOf chosen kind (left ++ rest) =
      ((c.endCallsOf chosen kind rest).1,
        left.filter Outlet.isBusy ++ (c.endCallsOf chosen kind rest).2) := by
  induction left with
  | nil => rfl
  | cons o left ih =>
      obtain ⟨ho, hleft⟩ := List.forall_mem_cons.mp h
      simp only [List.cons_append, endCallsOf, endCallOf_of_letBe ho, ih hleft, List.filter_cons]
      split <;> rfl

end Consumers

/-! ### The later delivery side -/

namespace Delivery

/-- The same delivery side after `before`, with these outlets of earlier streams left. -/
def later (before : Consumers) (streams : Nat) (left : List Outlet) (d : Delivery) : Delivery where
  toConsumers := before.later streams d.toConsumers
  current := d.current.map (Outlet.later before streams)
  retired := left ++ d.retired.map (Outlet.later before streams)

variable (before : Consumers) (streams : Nat) (left : List Outlet) (d : Delivery)

theorem register_later (kind : EventKind) (consumer : String) :
    (later before streams left d).register kind consumer =
      later before streams left (d.register kind consumer) :=
  congrArg (fun c => { later before streams left d with toConsumers := c })
    (before.register_later streams d.toConsumers kind consumer)

theorem setHold_later (kind : ConsumerKind) (on : Bool) :
    ({ later before streams left d with
        toConsumers := (later before streams left d).toConsumers.setHold kind on } : Delivery) =
      later before streams left { d with toConsumers := d.toConsumers.setHold kind on } := rfl

theorem deliver_later :
    (later before streams left d).deliver = later before streams left d.deliver := by
  unfold deliver later
  cases hcurrent : d.current with
  | none => simp only [hcurrent, Option.map_none]
  | some o => simp only [Option.map_some, Consumers.runWorkers_later]

theorem forfeit_later (c : Consumers) (k : Nat) (signal : Signal) :
    forfeit (before.later streams c) (streams + k) signal =
      before.later streams (forfeit c k signal) := by
  cases signal with
  | batch b => exact before.note_later streams c (.discarded k [b] [])
  | transition t => exact before.note_later streams c (.discarded k [] [t])
  | error code message => rfl

theorem publish_later (k : Nat) (signal : Signal) :
    (later before streams left d).publish (streams + k) signal =
      later before streams left (d.publish k signal) := by
  have hnote : (before.later streams d.toConsumers).note (.received (streams + k) signal) =
      before.later streams (d.toConsumers.note (.received k signal)) :=
    before.note_later streams d.toConsumers (.received k signal)
  unfold publish
  cases hcurrent : d.current with
  | none => simp only [later, hcurrent, Option.map_none, hnote, forfeit_later]
  | some o =>
      have hstream : (o.later before streams).stream = streams + o.stream := rfl
      simp only [later, hcurrent, Option.map_some, hnote, hstream, Nat.add_left_cancel_iff,
        Outlet.publish_later, Consumers.lose_later, forfeit_later]
      split
      · rfl
      · simp only [Option.map_some]

theorem publishAll_later (k : Nat) (signals : List Signal) : ∀ d : Delivery,
    (later before streams left d).publishAll (streams + k) signals =
      later before streams left (d.publishAll k signals) := by
  induction signals with
  | nil => exact fun d => rfl
  | cons signal rest ih =>
      intro d
      have hrest := ih (d.publish k signal)
      rw [← publish_later] at hrest
      exact hrest

theorem openStream_later (k capacity : Nat) :
    (later before streams left d).openStream (streams + k) capacity =
      later before streams left (d.openStream k capacity) := rfl

/-- A stream that closes joins those that are left over. -/
theorem closeStream_later :
    (later before streams left d).closeStream = later before streams left d.closeStream := by
  cases hcurrent : d.current with
  | none => simp only [closeStream, later, hcurrent, Option.map_none]
  | some o =>
      have hlater : (later before streams left d).current = some (o.later before streams) := by
        rw [later, hcurrent, Option.map_some]
      have hnote := before.note_later streams d.toConsumers
        (.discarded o.stream o.batches.items o.transitions.items)
      have hclose : (o.later before streams).close.1 = o.close.1.later before streams := rfl
      rw [closeStream_eq hlater, closeStream_eq hcurrent, Outlet.isBusy_later, hclose]
      simp only [later, Option.map_none, mk.injEq, true_and]
      refine ⟨hnote, ?_⟩
      split
      · rw [List.map_append, List.append_assoc, List.map_singleton]
      · rfl

/-- Calls of later streams end as if the earlier ones were not there. -/
theorem endCalls_later {chosen chosen' : Nat → Bool} (hchosen : ∀ k, chosen' (streams + k) = chosen k)
    {kind : ConsumerKind} (hleft : ∀ o ∈ left, o.LetBe chosen' kind) :
    (later before streams left d).endCalls chosen' kind =
      later before streams (left.filter Outlet.isBusy) (d.endCalls chosen kind) := by
  unfold endCalls
  simp only [later, Consumers.endCallsOf_of_letBe hleft,
    before.endCallsOf_later streams hchosen]
  cases hcurrent : d.current with
  | none => simp only [Option.map_none]
  | some o => simp only [Option.map_some, before.endCallOf_later streams _ o hchosen]

/-- A delivery side to which nothing has happened, with the consumers that are in place. -/
def renewed (d : Delivery) : Delivery where
  buttonConsumer := { current := d.buttonConsumer.current }
  errorConsumer := { current := d.errorConsumer.current }
  holds := d.holds

/-- Between two streams a delivery side is a new one with a past. -/
theorem later_renewed {d d' : Delivery} (hcurrent : d'.current = none)
    (hplaces : ∀ kind, (d'.registration kind).current = (d.registration kind).current)
    (hholds : d'.holds = d.holds) :
    later d'.toConsumers streams d'.retired d.renewed = d' := by
  have hbutton : d'.buttonConsumer.current = d.buttonConsumer.current := hplaces .button
  have herror : d'.errorConsumer.current = d.errorConsumer.current := hplaces .error
  obtain ⟨⟨button, error, holds, counters, log⟩, current, retired⟩ := d'
  simp only at hcurrent hbutton herror hholds
  subst hcurrent hholds
  simp only [later, renewed, Consumers.later, Registration.later, ← hbutton, ← herror, Nat.add_zero,
    DeliveryCounters.add_def, Array.map_empty, Array.append_empty, Option.map_none, List.map_nil,
    List.append_nil]

end Delivery

end QuadDaq

import QuadDaq.Proofs.Delivery.Change
import QuadDaq.Proofs.Queue
import QuadDaq.Proofs.Stream.Course

/-!
# The ledger of batches

**What the log of the delivery side tells of batches**: which were handed in, which the
data consumer was called with, whose calls came to their ends, which were lost, and which
came too late. Every batch has exactly one fate (`Balanced`), whatever it is weighed
with: weighed with one this counts batches, weighed with their sizes it counts rows.

`Work.data_cases` and `publish_cases` say what a worker and a publication do to the
ledger; events about the button and about errors leave it alone.
-/

namespace QuadDaq

/-! ### Entries -/

namespace DeliveryEvent

/-- A signal that was handed in, with the number of its stream. -/
def received? : DeliveryEvent → Option (Nat × Signal)
  | .received k s => some (k, s)
  | _ => none

/-- A batch that the data consumer was called with, and the number of dropped ones. -/
def called? : DeliveryEvent → Option (Nat × (Batch × Nat))
  | .batch k b n => some (k, (b, n))
  | _ => none

/-- A batch whose call came to its end. -/
def done? : DeliveryEvent → Option (Nat × Batch)
  | .batchDone k b => some (k, b)
  | _ => none

/-- A batch that a full queue gave up. -/
def lost? : DeliveryEvent → Option (Nat × Batch)
  | .lost k (.batch b) => some (k, b)
  | _ => none

/-- The batches that came too late. -/
def late : DeliveryEvent → List (Nat × Batch)
  | .discarded k batches _ => batches.map (Prod.mk k)
  | _ => []

/-- The entry is about the button or about errors, and not about a batch. -/
def isEvent : DeliveryEvent → Bool
  | .transition .. | .transitionUnclaimed .. | .errors .. | .errorsUnclaimed .. => true
  | _ => false

end DeliveryEvent

namespace Consumers

/-- All signals that were handed in. -/
def received (c : Consumers) : List (Nat × Signal) :=
  c.log.toList.filterMap DeliveryEvent.received?

/-- All batches that the data consumer was called with. -/
def delivered (c : Consumers) : List (Nat × (Batch × Nat)) :=
  c.log.toList.filterMap DeliveryEvent.called?

/-- All batches whose calls came to their ends. -/
def completed (c : Consumers) : List (Nat × Batch) := c.log.toList.filterMap DeliveryEvent.done?

/-- All batches that full queues gave up. -/
def lost (c : Consumers) : List (Nat × Batch) := c.log.toList.filterMap DeliveryEvent.lost?

/-- All batches that came too late. -/
def late (c : Consumers) : List (Nat × Batch) := c.log.toList.flatMap DeliveryEvent.late

section Note

variable (c : Consumers) (event : DeliveryEvent)

@[simp] theorem note_received :
    (c.note event).received = c.received ++ event.received?.toList := by
  cases h : event.received? <;> simp [received, note, h]

@[simp] theorem note_delivered :
    (c.note event).delivered = c.delivered ++ event.called?.toList := by
  cases h : event.called? <;> simp [delivered, note, h]

@[simp] theorem note_completed : (c.note event).completed = c.completed ++ event.done?.toList := by
  cases h : event.done? <;> simp [completed, note, h]

@[simp] theorem note_lost : (c.note event).lost = c.lost ++ event.lost?.toList := by
  cases h : event.lost? <;> simp [lost, note, h]

@[simp] theorem note_late : (c.note event).late = c.late ++ event.late := by
  simp [late, note]

@[simp] theorem note_counters : (c.note event).counters = c.counters := rfl

end Note

section BatchDone

variable (c : Consumers) (k : Nat) (b : Batch)

@[simp] theorem batchDone_received : (c.batchDone k b).received = c.received :=
  (note_received _ _).trans (List.append_nil _)

@[simp] theorem batchDone_delivered : (c.batchDone k b).delivered = c.delivered :=
  (note_delivered _ _).trans (List.append_nil _)

@[simp] theorem batchDone_completed :
    (c.batchDone k b).completed = c.completed ++ [(k, b)] :=
  note_completed _ _

@[simp] theorem batchDone_lost : (c.batchDone k b).lost = c.lost :=
  (note_lost _ _).trans (List.append_nil _)

@[simp] theorem batchDone_late : (c.batchDone k b).late = c.late :=
  (note_late _ _).trans (List.append_nil _)

@[simp] theorem batchDone_counters :
    (c.batchDone k b).counters = { c.counters with
      rowsDelivered := c.counters.rowsDelivered + b.size
      batchesDelivered := c.counters.batchesDelivered + 1 } := rfl

end BatchDone

/-- The consumers differ in nothing that concerns batches. -/
structure SameLedger (c c' : Consumers) : Prop where
  received : c'.received = c.received
  delivered : c'.delivered = c.delivered
  completed : c'.completed = c.completed
  lost : c'.lost = c.lost
  late : c'.late = c.late
  rowsDelivered : c'.counters.rowsDelivered = c.counters.rowsDelivered
  batchesDelivered : c'.counters.batchesDelivered = c.counters.batchesDelivered
  droppedBatches : c'.counters.droppedBatches = c.counters.droppedBatches
  droppedEvents : c.counters.droppedEvents ≤ c'.counters.droppedEvents

theorem SameLedger.trans {c₁ c₂ c₃ : Consumers} (h : SameLedger c₁ c₂) (h' : SameLedger c₂ c₃) :
    SameLedger c₁ c₃ :=
  ⟨h'.received.trans h.received, h'.delivered.trans h.delivered, h'.completed.trans h.completed,
    h'.lost.trans h.lost, h'.late.trans h.late, h'.rowsDelivered.trans h.rowsDelivered,
    h'.batchesDelivered.trans h.batchesDelivered, h'.droppedBatches.trans h.droppedBatches,
    Nat.le_trans h.droppedEvents h'.droppedEvents⟩

/-- The consumers differ in no fate of a batch; a call may have come to its end. -/
structure SameFates (c c' : Consumers) : Prop where
  received : c'.received = c.received
  delivered : c'.delivered = c.delivered
  lost : c'.lost = c.lost
  late : c'.late = c.late

theorem SameLedger.sameFates {c c' : Consumers} (h : SameLedger c c') : SameFates c c' :=
  ⟨h.received, h.delivered, h.lost, h.late⟩

theorem batchDone_sameFates (c : Consumers) (k : Nat) (b : Batch) :
    SameFates c (c.batchDone k b) :=
  ⟨batchDone_received c k b, batchDone_delivered c k b, batchDone_lost c k b, batchDone_late c k b⟩

theorem setRegistration_sameLedger (c : Consumers) (kind : EventKind) (r : Registration String) :
    SameLedger c (c.setRegistration kind r) := by
  cases kind <;> exact ⟨rfl, rfl, rfl, rfl, rfl, rfl, rfl, rfl, Nat.le_refl _⟩

theorem register_sameLedger (c : Consumers) (kind : EventKind) (consumer : String) :
    SameLedger c (c.register kind consumer) :=
  setRegistration_sameLedger c kind _

theorem note_sameLedger (c : Consumers) {event : DeliveryEvent} (h : event.isEvent = true) :
    SameLedger c (c.note event) := by
  have hnone : event.received? = none ∧ event.called? = none ∧ event.done? = none ∧
      event.lost? = none ∧ event.late = [] := by
    cases event <;> first | exact ⟨rfl, rfl, rfl, rfl, rfl⟩ | exact absurd h Bool.false_ne_true
  obtain ⟨hreceived, hcalled, hdone, hlost, hlate⟩ := hnone
  constructor <;> simp [hreceived, hcalled, hdone, hlost, hlate]

theorem setHold_sameLedger (c : Consumers) (kind : ConsumerKind) (on : Bool) :
    SameLedger c (c.setHold kind on) :=
  ⟨rfl, rfl, rfl, rfl, rfl, rfl, rfl, rfl, Nat.le_refl _⟩

end Consumers

/-- The outlets differ in nothing that concerns batches. -/
structure Outlet.SameData (o o' : Outlet) : Prop where
  stream : o'.stream = o.stream
  batches : o'.batches = o.batches
  dropped : o'.dropped = o.dropped
  closed : o'.closed = o.closed
  dataCall : o'.dataCall = o.dataCall

/-- The outlets differ in nothing that concerns the data worker's call. -/
structure Outlet.SameCall (o o' : Outlet) : Prop where
  stream : o'.stream = o.stream
  closed : o'.closed = o.closed
  dataCall : o'.dataCall = o.dataCall
  capacity : o'.batches.capacity = o.batches.capacity

namespace Outlet

theorem SameData.sameCall {o o' : Outlet} (h : o.SameData o') : o.SameCall o' :=
  ⟨h.stream, h.closed, h.dataCall, by rw [h.batches]⟩

theorem SameData.trans {o₁ o₂ o₃ : Outlet} (h : o₁.SameData o₂) (h' : o₂.SameData o₃) :
    o₁.SameData o₃ :=
  ⟨h'.stream.trans h.stream, h'.batches.trans h.batches, h'.dropped.trans h.dropped,
    h'.closed.trans h.closed, h'.dataCall.trans h.dataCall⟩

theorem takeTransition_same (o : Outlet) : o.SameData o.takeTransition.1 :=
  ⟨rfl, rfl, rfl, rfl, rfl⟩

theorem takeErrors_same (o : Outlet) : o.SameData o.takeErrors.1 := by
  unfold takeErrors
  split <;> exact ⟨rfl, rfl, rfl, rfl, rfl⟩

end Outlet

/-! ### Workers -/

namespace Consumers

theorem beginCall_same {c c' : Consumers} {o o' : Outlet} {kind : EventKind}
    {called : String → DeliveryEvent} {unclaimed : DeliveryEvent}
    (h : c.beginCall o kind called unclaimed = (c', o'))
    (hcalled : ∀ consumer, (called consumer).isEvent = true)
    (hunclaimed : unclaimed.isEvent = true) : SameLedger c c' ∧ o.SameData o' := by
  unfold beginCall at h
  split at h
  · obtain ⟨rfl, rfl⟩ := Prod.mk.inj h
    exact ⟨note_sameLedger c hunclaimed, rfl, rfl, rfl, rfl, rfl⟩
  · next place loan _ =>
      obtain ⟨rfl, rfl⟩ := Prod.mk.inj h
      exact ⟨(setRegistration_sameLedger c kind place).trans (note_sameLedger _ (hcalled _)),
        rfl, rfl, rfl, rfl, rfl⟩

/-- Taking up an event concerns no batch. -/
theorem beginEvent_same {c c' : Consumers} {o o' : Outlet} {kind : EventKind}
    (h : c.beginEvent o = some (kind, c', o')) : SameLedger c c' ∧ o.SameData o' := by
  unfold beginEvent at h
  split at h
  · cases h
  · split at h
    · next o₁ t htake =>
        have hsame := o.takeTransition_same
        rw [htake] at hsame
        obtain ⟨hledger, hdata⟩ := beginCall_same (Prod.mk.inj (Option.some.inj h)).2
          (fun _ => rfl) rfl
        exact ⟨hledger, hsame.trans hdata⟩
    · split at h
      · cases h
      · next o₁ errors htake =>
          have hsame := o.takeErrors_same
          rw [htake] at hsame
          obtain ⟨hledger, hdata⟩ := beginCall_same (Prod.mk.inj (Option.some.inj h)).2
            (fun _ => rfl) rfl
          exact ⟨hledger, hsame.trans hdata⟩

end Consumers

/-- What a worker does to the ledger: it calls the data consumer with the oldest batch,
or the consumer returns, or nothing happens to a batch. -/
theorem Work.data_cases {c c' : Consumers} {o o' : Outlet} (h : Work (c, o) (c', o')) :
    (∃ b rest, o.closed = false ∧ o.dataCall = none ∧ o.batches.items = b :: rest ∧
      c' = c.note (.batch o.stream b o.dropped) ∧
      o' = { o with batches := o.batches.pop.1, dropped := 0, dataCall := some b }) ∨
    (∃ b, o.dataCall = some b ∧ c' = c.batchDone o.stream b ∧ o' = { o with dataCall := none }) ∨
    (Consumers.SameLedger c c' ∧ o.SameData o') := by
  cases h with
  | batchBegan hopen hfree hitems => exact .inl ⟨_, _, hopen, hfree, hitems, rfl, rfl⟩
  | batchEnded hcall => exact .inr (.inl ⟨_, hcall, rfl, rfl⟩)
  | eventBegan hbegin => exact .inr (.inr (Consumers.beginEvent_same hbegin))
  | eventEnded _ =>
      exact .inr (.inr ⟨Consumers.setRegistration_sameLedger _ _ _, rfl, rfl, rfl, rfl, rfl⟩)

/-! ### Publications -/

namespace Delivery

/-- The consumers differ in no call, and count no fewer events as dropped. -/
structure SameCalls (c c' : Consumers) : Prop where
  received : c'.received = c.received
  delivered : c'.delivered = c.delivered
  completed : c'.completed = c.completed
  rowsDelivered : c'.counters.rowsDelivered = c.counters.rowsDelivered
  batchesDelivered : c'.counters.batchesDelivered = c.counters.batchesDelivered
  droppedEvents : c.counters.droppedEvents ≤ c'.counters.droppedEvents
  holds : c'.holds = c.holds

theorem SameCalls.refl (c : Consumers) : SameCalls c c :=
  ⟨rfl, rfl, rfl, rfl, rfl, Nat.le_refl _, rfl⟩

theorem SameCalls.trans {c₁ c₂ c₃ : Consumers} (h : SameCalls c₁ c₂) (h' : SameCalls c₂ c₃) :
    SameCalls c₁ c₃ :=
  ⟨h'.received.trans h.received, h'.delivered.trans h.delivered, h'.completed.trans h.completed,
    h'.rowsDelivered.trans h.rowsDelivered, h'.batchesDelivered.trans h.batchesDelivered,
    Nat.le_trans h.droppedEvents h'.droppedEvents, h'.holds.trans h.holds⟩

theorem note_sameCalls (c : Consumers) {event : DeliveryEvent} (hreceived : event.received? = none)
    (hcalled : event.called? = none) (hdone : event.done? = none) : SameCalls c (c.note event) := by
  refine ⟨?_, ?_, ?_, rfl, rfl, Nat.le_refl _, rfl⟩
  · rw [Consumers.note_received, hreceived, Option.toList_none, List.append_nil]
  · rw [Consumers.note_delivered, hcalled, Option.toList_none, List.append_nil]
  · rw [Consumers.note_completed, hdone, Option.toList_none, List.append_nil]

theorem forfeit_sameCalls (c : Consumers) (k : Nat) (signal : Signal) :
    SameCalls c (forfeit c k signal) := by
  cases signal with
  | batch b => exact note_sameCalls c rfl rfl rfl
  | transition t => exact note_sameCalls c rfl rfl rfl
  | error code message => exact .refl c

theorem lose_sameCalls (c : Consumers) (k : Nat) (loss : Option Loss) :
    SameCalls c (c.lose k loss) := by
  rcases loss with _ | (b | t)
  · exact .refl c
  · simp only [Consumers.lose]
    refine .trans ?_ (note_sameCalls _ rfl rfl rfl)
    exact ⟨rfl, rfl, rfl, rfl, rfl, Nat.le_refl _, rfl⟩
  · simp only [Consumers.lose]
    refine .trans ?_ (note_sameCalls _ rfl rfl rfl)
    exact ⟨rfl, rfl, rfl, rfl, rfl, Nat.le_succ _, rfl⟩

/-- The batch that a loss is. -/
def lostBatch? : Option Loss → Option Batch
  | some (.batch b) => some b
  | _ => none

theorem lose_lost (c : Consumers) (k : Nat) (loss : Option Loss) :
    (c.lose k loss).lost = c.lost ++ ((lostBatch? loss).map (Prod.mk k)).toList := by
  rcases loss with _ | (b | t) <;>
    simp [Consumers.lose, Consumers.lost, Consumers.note, DeliveryEvent.lost?, lostBatch?]

theorem lose_late (c : Consumers) (k : Nat) (loss : Option Loss) :
    (c.lose k loss).late = c.late := by
  rcases loss with _ | (b | t) <;>
    simp [Consumers.lose, Consumers.late, Consumers.note, DeliveryEvent.late]

theorem lose_droppedBatches (c : Consumers) (k : Nat) (loss : Option Loss) :
    (c.lose k loss).counters.droppedBatches =
      c.counters.droppedBatches + (lostBatch? loss).toList.length := by
  rcases loss with _ | (b | t) <;> rfl

/-- What a publication leaves alone. -/
structure PublishFrame (k : Nat) (signal : Signal) (d d' : Delivery) : Prop where
  calls : SameCalls (d.note (.received k signal)) d'.toConsumers
  retired : d'.retired = d.retired

/-- What becomes of a signal on the ledger. A batch comes too late, or finds room, or
displaces the oldest one; any other signal is no matter of batches. -/
inductive PublishFate (k : Nat) : Signal → Delivery → Delivery → Prop
  | other {signal : Signal} {d d' : Delivery} :
      signal.batch? = none →
      (d'.current = d.current ∨
        ∃ o o', d.current = some o ∧ d'.current = some o' ∧ o.SameData o') →
      d'.lost = d.lost →
      d'.late = d.late →
      d'.counters.droppedBatches = d.counters.droppedBatches →
      PublishFate k signal d d'
  | late {b : Batch} {d d' : Delivery} :
      (∀ o, d.current = some o → o.stream ≠ k) →
      d'.current = d.current →
      d'.lost = d.lost →
      d'.late = d.late ++ [(k, b)] →
      d'.counters.droppedBatches = d.counters.droppedBatches →
      PublishFate k (.batch b) d d'
  | queued {b : Batch} {d d' : Delivery} {o o' : Outlet} :
      d.current = some o →
      o.stream = k →
      d'.current = some o' →
      o.SameCall o' →
      o'.dropped = o.dropped →
      o'.batches.items = o.batches.items ++ [b] →
      d'.lost = d.lost →
      d'.late = d.late →
      d'.counters.droppedBatches = d.counters.droppedBatches →
      PublishFate k (.batch b) d d'
  | evicted {b oldest : Batch} {rest : List Batch} {d d' : Delivery} {o o' : Outlet} :
      d.current = some o →
      o.stream = k →
      o.batches.items = oldest :: rest →
      o.batches.items.length = o.batches.capacity →
      d'.current = some o' →
      o.SameCall o' →
      o'.dropped = o.dropped + 1 →
      o'.batches.items = rest ++ [b] →
      d'.lost = d.lost ++ [(k, oldest)] →
      d'.late = d.late →
      d'.counters.droppedBatches = d.counters.droppedBatches + 1 →
      PublishFate k (.batch b) d d'

theorem publish_frame (d : Delivery) (k : Nat) (signal : Signal) :
    PublishFrame k signal d (d.publish k signal) := by
  unfold publish
  cases ho : d.current with
  | none => exact ⟨forfeit_sameCalls _ k signal, rfl⟩
  | some o =>
      by_cases hk : o.stream = k
      · simp only [if_pos hk]
        exact ⟨lose_sameCalls _ k _, rfl⟩
      · simp only [if_neg hk]
        exact ⟨forfeit_sameCalls _ k signal, rfl⟩

/-- A signal of a stream without an outlet comes too late. -/
theorem forfeit_fate {d d' : Delivery} {k : Nat} {signal : Signal}
    (h : ∀ o, d.current = some o → o.stream ≠ k) (hcurrent : d'.current = d.current)
    (hd' : d'.toConsumers = forfeit (d.note (.received k signal)) k signal) :
    PublishFate k signal d d' := by
  cases signal with
  | batch b =>
      refine .late h hcurrent ?_ ?_ ?_ <;> rw [hd']
      · simp [forfeit, DeliveryEvent.lost?]
      · simp [forfeit, DeliveryEvent.late]
      · rfl
  | transition t =>
      refine .other rfl (.inl hcurrent) ?_ ?_ ?_ <;> rw [hd']
      · simp [forfeit, DeliveryEvent.lost?]
      · simp [forfeit, DeliveryEvent.late]
      · rfl
  | error code message =>
      refine .other rfl (.inl hcurrent) ?_ ?_ ?_ <;> rw [hd']
      · simp [forfeit, DeliveryEvent.lost?]
      · simp [forfeit, DeliveryEvent.late]
      · rfl

/-- A signal of the stream whose outlet is open. -/
theorem admit_fate {d d' : Delivery} {o : Outlet} {signal : Signal} (ho : d.current = some o)
    (hcurrent : d'.current = some (o.publish signal).1)
    (hd' : d'.toConsumers =
      (d.note (.received o.stream signal)).lose o.stream (o.publish signal).2) :
    PublishFate o.stream signal d d' := by
  have hlost : d'.lost =
      d.lost ++ ((lostBatch? (o.publish signal).2).map (Prod.mk o.stream)).toList := by
    rw [hd', lose_lost, Consumers.note_lost]
    simp [DeliveryEvent.lost?]
  have hlate : d'.late = d.late := by
    rw [hd', lose_late, Consumers.note_late]
    simp [DeliveryEvent.late]
  have hdropped : d'.counters.droppedBatches =
      d.counters.droppedBatches + (lostBatch? (o.publish signal).2).toList.length := by
    rw [hd', lose_droppedBatches, Consumers.note_counters]
  cases signal with
  | batch b =>
      rcases o.batches.push_cases b with
        ⟨_, hnone, hitems⟩ | ⟨oldest, rest, hold, hfull, hsome, hitems⟩
      · have hpub : o.publish (.batch b) = ({ o with batches := (o.batches.push b).1 }, none) := by
          simp only [Outlet.publish, Outlet.publishBatch]
          rw [show o.batches.push b = ((o.batches.push b).1, none) from Prod.ext rfl hnone]
        rw [hpub] at hcurrent hlost hdropped
        exact .queued ho rfl hcurrent ⟨rfl, rfl, rfl, DropOldest.push_capacity _ _⟩ rfl hitems
          (hlost.trans (List.append_nil _)) hlate hdropped
      · have hpub : o.publish (.batch b) =
            (({ o with batches := (o.batches.push b).1, dropped := o.dropped + 1 }).report
              (Outlet.lossCode (.batch oldest)) (Outlet.lossMessage (.batch oldest)),
              some (.batch oldest)) := by
          simp only [Outlet.publish, Outlet.publishBatch]
          rw [show o.batches.push b = ((o.batches.push b).1, some oldest) from Prod.ext rfl hsome]
        rw [hpub] at hcurrent hlost hdropped
        exact .evicted ho rfl hold hfull hcurrent ⟨rfl, rfl, rfl, DropOldest.push_capacity _ _⟩ rfl
          hitems hlost hlate hdropped
  | transition t =>
      have hsame : o.SameData (o.publish (.transition t)).1 ∧
          lostBatch? (o.publish (.transition t)).2 = none := by
        simp only [Outlet.publish, Outlet.publishTransition]
        split <;> exact ⟨⟨rfl, rfl, rfl, rfl, rfl⟩, rfl⟩
      rw [hsame.2] at hlost hdropped
      exact .other rfl (.inr ⟨o, _, ho, hcurrent, hsame.1⟩) (hlost.trans (List.append_nil _)) hlate
        hdropped
  | error code message =>
      exact .other rfl (.inr ⟨o, _, ho, hcurrent, rfl, rfl, rfl, rfl, rfl⟩)
        (hlost.trans (List.append_nil _)) hlate hdropped

theorem publish_fate (d : Delivery) (k : Nat) (signal : Signal) :
    PublishFate k signal d (d.publish k signal) := by
  unfold publish
  cases ho : d.current with
  | none => exact forfeit_fate (by simp [ho]) ho.symm rfl
  | some o =>
      by_cases hk : o.stream = k
      · simp only [if_pos hk]
        subst hk
        exact admit_fate ho rfl rfl
      · simp only [if_neg hk]
        refine forfeit_fate ?_ ho.symm rfl
        intro o' ho'
        rw [ho, Option.some.injEq] at ho'
        rwa [← ho']

/-- A publication replaces no outlet. -/
theorem PublishFate.current {k : Nat} {signal : Signal} {d d' : Delivery}
    (h : PublishFate k signal d d') {o' : Outlet} (ho' : d'.current = some o') :
    ∃ o, d.current = some o ∧ o.SameCall o' := by
  cases h with
  | other _ hcurrent _ _ _ =>
      rcases hcurrent with hsame | ⟨o, o'', ho, ho'', hsame⟩
      · exact ⟨o', hsame ▸ ho', rfl, rfl, rfl, rfl⟩
      · rw [ho', Option.some.injEq] at ho''
        exact ⟨o, ho, ho'' ▸ hsame.sameCall⟩
  | late _ hsame _ _ _ => exact ⟨o', hsame ▸ ho', rfl, rfl, rfl, rfl⟩
  | queued ho _ ho'' hsame _ _ _ _ _ =>
      rw [ho', Option.some.injEq] at ho''
      exact ⟨_, ho, ho'' ▸ hsame⟩
  | evicted ho _ _ _ ho'' hsame _ _ _ _ _ =>
      rw [ho', Option.some.injEq] at ho''
      exact ⟨_, ho, ho'' ▸ hsame⟩

end Delivery

end QuadDaq

import QuadDaq.Proofs.Delivery.Attendance
import QuadDaq.Proofs.Stream.Signals

/-!
# Every transition has one fate

**What the log of the delivery side tells of button transitions.** A transition that was
handed in waits, or its fate is settled: it was delivered, went unclaimed, was evicted by
a newer one, or was discarded with its stream. The fates of a stream are settled in the
order of publication (`KeepsTransitions`).

`Work.settles` and `publish_enters` say what a worker and a publication do to
transitions; batches and errors leave them alone.
-/

namespace QuadDaq

/-- What becomes of a transition that does not wait any more. -/
inductive Fate
  | delivered (consumer : String)
  /-- There was no consumer to call. -/
  | unclaimed
  /-- A full queue gave it up. -/
  | evicted
  /-- Its stream was stopped before. -/
  | discarded
  deriving Repr, DecidableEq

/-- A transition whose fate is settled. -/
structure Settlement where
  stream : Nat
  transition : Transition
  fate : Fate
  deriving Repr, DecidableEq

/-- The transition with the number of its stream, as it was published. -/
def Settlement.published (s : Settlement) : Nat × Transition := (s.stream, s.transition)

/-- It was delivered. -/
def Fate.isDelivered : Fate → Bool
  | .delivered _ => true
  | .unclaimed | .evicted | .discarded => false

/-- The fates that an entry of the log settles. -/
def DeliveryEvent.settled : DeliveryEvent → List Settlement
  | .transition k consumer t => [⟨k, t, .delivered consumer⟩]
  | .transitionUnclaimed k t => [⟨k, t, .unclaimed⟩]
  | .lost k (.transition t) => [⟨k, t, .evicted⟩]
  | .discarded k _ transitions => transitions.map (⟨k, ·, .discarded⟩)
  | .received .. | .batch .. | .batchDone .. | .errors .. | .errorsUnclaimed .. |
    .lost _ (.batch _) => []

/-- The entry that settles a fate. -/
theorem DeliveryEvent.eq_of_settled {event : DeliveryEvent} {s : Settlement}
    (h : s ∈ event.settled) :
    (∃ consumer, event = .transition s.stream consumer s.transition ∧
      s.fate = .delivered consumer) ∨
    (event = .transitionUnclaimed s.stream s.transition ∧ s.fate = .unclaimed) ∨
    (event = .lost s.stream (.transition s.transition) ∧ s.fate = .evicted) ∨
    ∃ batches transitions, event = .discarded s.stream batches transitions ∧
      s.fate = .discarded := by
  cases event with
  | transition k consumer t =>
      rw [List.mem_singleton.mp h]
      exact .inl ⟨consumer, rfl, rfl⟩
  | transitionUnclaimed k t =>
      rw [List.mem_singleton.mp h]
      exact .inr (.inl ⟨rfl, rfl⟩)
  | lost k loss =>
      cases loss with
      | batch b => cases h
      | transition t =>
          rw [List.mem_singleton.mp h]
          exact .inr (.inr (.inl ⟨rfl, rfl⟩))
  | discarded k batches transitions =>
      obtain ⟨t, -, rfl⟩ := List.mem_map.mp h
      exact .inr (.inr (.inr ⟨batches, transitions, rfl, rfl⟩))
  | _ => cases h

namespace Consumers

/-- All settled fates, in order. -/
def settled (c : Consumers) : List Settlement := c.log.toList.flatMap DeliveryEvent.settled

@[simp] theorem note_settled (c : Consumers) (event : DeliveryEvent) :
    (c.note event).settled = c.settled ++ event.settled := by
  simp [settled, note]

theorem setRegistration_settled (c : Consumers) (kind : EventKind) (r : Registration String) :
    (c.setRegistration kind r).settled = c.settled := by
  rw [settled, setRegistration_log, ← settled]

end Consumers

/-- The transitions that wait in an outlet. -/
def Outlet.waitingTransitions (o : Outlet) : List (Nat × Transition) :=
  o.transitions.items.map (Prod.mk o.stream)

namespace Delivery

/-- All transitions that were handed in. -/
def receivedTransitions (d : Delivery) : List (Nat × Transition) :=
  d.received.filterMap fun p => p.2.transition?.map (Prod.mk p.1)

/-- The transitions that wait to be delivered. -/
def waitingTransitions (d : Delivery) : List (Nat × Transition) :=
  d.current.toList.flatMap Outlet.waitingTransitions

/-- Only the queue of the current outlet matters, and the number of its stream. -/
theorem waitingTransitions_eq (d : Delivery) :
    d.waitingTransitions = (d.current.map fun o => (o.stream, o.transitions)).toList.flatMap
      fun p => p.2.items.map (Prod.mk p.1) := by
  unfold waitingTransitions
  cases d.current <;> rfl

/-- The transitions that were delivered. -/
def deliveredTransitions (d : Delivery) : List (Nat × Transition) :=
  (d.settled.filter fun s => s.fate.isDelivered).map Settlement.published

/-- The transitions with this fate. -/
def settledAs (d : Delivery) (fate : Fate) : List (Nat × Transition) :=
  (d.settled.filter fun s => s.fate = fate).map Settlement.published

/-- Every transition that was handed in has one fate or waits. -/
structure KeepsTransitions (d : Delivery) : Prop where
  /-- Fates are settled in the order of publication. -/
  ordered : ∀ k, ofStream k d.receivedTransitions =
    ofStream k (d.settled.map Settlement.published) ++ ofStream k d.waitingTransitions
  /-- Those that are delivered, or may still be, are so in the order of publication. -/
  delivered : (d.deliveredTransitions ++ d.waitingTransitions).Sublist d.receivedTransitions
  counted : d.counters.droppedEvents = (d.settledAs .evicted).length
  emptied : ∀ o ∈ d.retired, o.transitions.items = []
  capacity : ∀ o, d.current = some o → o.transitions.capacity = transitionCapacity

end Delivery

/-! ### Workers -/

/-- The event worker takes up the oldest transition, which settles its fate, or nothing happens
to a transition. -/
theorem Work.settles {c c' : Consumers} {o o' : Outlet} (h : Work (c, o) (c', o')) :
    c'.counters.droppedEvents = c.counters.droppedEvents ∧
      o'.transitions.capacity = o.transitions.capacity ∧
      ((c'.settled = c.settled ∧ o'.transitions.items = o.transitions.items) ∨
      ∃ t rest fate, o.closed = false ∧ o.transitions.items = t :: rest ∧
        o'.transitions.items = rest ∧ (fate = .unclaimed ∨ ∃ consumer, fate = .delivered consumer) ∧
        c'.settled = c.settled ++ [⟨o.stream, t, fate⟩]) := by
  cases h with
  | batchBegan _ _ _ => exact ⟨rfl, rfl, .inl ⟨by simp [DeliveryEvent.settled], rfl⟩⟩
  | batchEnded _ =>
      refine ⟨rfl, rfl, .inl ⟨?_, rfl⟩⟩
      exact (Consumers.note_settled _ _).trans (List.append_nil _)
  | eventEnded _ =>
      refine ⟨?_, rfl, .inl ⟨Consumers.setRegistration_settled _ _ _, rfl⟩⟩
      rw [Consumers.eventDone, Consumers.setRegistration_counters]
  | eventBegan hbegin =>
      obtain ⟨hopen, -, event, remaining, hoffers, -, hcall⟩ := Consumers.beginEvent_takes hbegin
      cases hoffers with
      | @transition t rest hitems =>
          rcases hcall with ⟨-, rfl, rfl⟩ | ⟨consumer, -, rfl, rfl⟩
          · exact ⟨rfl, rfl, .inr ⟨t, rest, .unclaimed, hopen, hitems, by simp [hitems], .inl rfl,
              Consumers.note_settled _ _⟩⟩
          · refine ⟨?_, rfl, .inr ⟨t, rest, .delivered consumer, hopen, hitems, by simp [hitems],
              .inr ⟨consumer, rfl⟩, ?_⟩⟩
            · rw [Consumers.note_counters, Consumers.setRegistration_counters]
            · rw [Consumers.note_settled, Consumers.setRegistration_settled]
              rfl
      | errors _ _ =>
          rcases hcall with ⟨-, rfl, rfl⟩ | ⟨consumer, -, rfl, rfl⟩
          · exact ⟨rfl, rfl, .inl ⟨by simp [TakenEvent.unclaimed, DeliveryEvent.settled], rfl⟩⟩
          · refine ⟨?_, rfl, .inl ⟨?_, rfl⟩⟩
            · rw [Consumers.note_counters, Consumers.setRegistration_counters]
            · rw [Consumers.note_settled, Consumers.setRegistration_settled]
              exact List.append_nil _

/-! ### Publications -/

namespace Delivery

/-- What becomes of a transition of stream `k` that is handed in: it comes too late, or finds
room, or displaces the oldest one, which is counted and reported. -/
inductive Enters (k : Nat) (t : Transition) : Delivery → Delivery → Prop
  | late {d d' : Delivery} :
      (∀ o, d.current = some o → o.stream ≠ k) →
      d'.current = d.current →
      d'.settled = d.settled ++ [⟨k, t, .discarded⟩] →
      d'.counters.droppedEvents = d.counters.droppedEvents →
      Enters k t d d'
  | queued {d d' : Delivery} {o : Outlet} {queue : DropOldest Transition} :
      d.current = some o →
      o.stream = k →
      d'.current = some { o with transitions := queue } →
      queue.capacity = o.transitions.capacity →
      queue.items = o.transitions.items ++ [t] →
      d'.settled = d.settled →
      d'.counters.droppedEvents = d.counters.droppedEvents →
      Enters k t d d'
  | evicted {d d' : Delivery} {o : Outlet} {queue : DropOldest Transition} {oldest : Transition}
      {rest : List Transition} :
      d.current = some o →
      o.stream = k →
      o.transitions.items = oldest :: rest →
      o.transitions.items.length = o.transitions.capacity →
      d'.current = some { o with
        transitions := queue
        errors := o.errors.record .eventOverrun (Outlet.lossMessage (.transition oldest)) } →
      queue.capacity = o.transitions.capacity →
      queue.items = rest ++ [t] →
      d'.settled = d.settled ++ [⟨k, oldest, .evicted⟩] →
      d'.counters.droppedEvents = d.counters.droppedEvents + 1 →
      Enters k t d d'

/-- A transition of the stream whose outlet is open. -/
theorem publishTransition_cases (o : Outlet) (t : Transition) :
    (∃ queue, o.publishTransition t = ({ o with transitions := queue }, none) ∧
      queue.capacity = o.transitions.capacity ∧ queue.items = o.transitions.items ++ [t]) ∨
    ∃ queue oldest rest, o.publishTransition t = ({ o with
        transitions := queue
        errors := o.errors.record .eventOverrun (Outlet.lossMessage (.transition oldest)) },
        some (.transition oldest)) ∧
      queue.capacity = o.transitions.capacity ∧ queue.items = rest ++ [t] ∧
      o.transitions.items = oldest :: rest ∧
      o.transitions.items.length = o.transitions.capacity := by
  rcases o.transitions.push_cases t with
    ⟨-, hnone, hitems⟩ | ⟨oldest, rest, hold, hfull, hsome, hitems⟩
  · refine .inl ⟨_, ?_, DropOldest.push_capacity _ _, hitems⟩
    simp only [Outlet.publishTransition]
    rw [show o.transitions.push t = ((o.transitions.push t).1, none) from Prod.ext rfl hnone]
  · refine .inr ⟨_, oldest, rest, ?_, DropOldest.push_capacity _ _, hitems, hold, hfull⟩
    simp only [Outlet.publishTransition]
    rw [show o.transitions.push t = ((o.transitions.push t).1, some oldest) from Prod.ext rfl hsome]
    rfl

theorem publish_enters (d : Delivery) (k : Nat) (t : Transition) :
    Enters k t d (d.publish k (.transition t)) := by
  unfold publish
  cases ho : d.current with
  | none =>
      exact .late (by simp [ho]) ho.symm (by simp [forfeit, DeliveryEvent.settled]) rfl
  | some o =>
      by_cases hk : o.stream = k
      · simp only [if_pos hk, Outlet.publish]
        rcases publishTransition_cases o t with ⟨queue, heq, hcapacity, hitems⟩ |
          ⟨queue, oldest, rest, heq, hcapacity, hitems, hold, hfull⟩
        · rw [heq]
          exact .queued ho hk rfl hcapacity hitems
            ((Consumers.note_settled _ _).trans (List.append_nil _)) rfl
        · rw [heq]
          refine .evicted ho hk hold hfull rfl hcapacity hitems ?_ rfl
          simp only [Consumers.lose, Consumers.settled, Consumers.note]
          simp [DeliveryEvent.settled]
      · simp only [if_neg hk]
        refine .late ?_ ho.symm (by simp [forfeit, DeliveryEvent.settled]) rfl
        rintro o' ho'
        rw [ho, Option.some.injEq] at ho'
        rwa [← ho']

/-- Another signal is no matter of transitions. -/
theorem publish_settled_of_none (d : Delivery) (k : Nat) {signal : Signal}
    (h : signal.transition? = none) :
    (d.publish k signal).settled = d.settled ∧
      (d.publish k signal).counters.droppedEvents = d.counters.droppedEvents ∧
      (d.publish k signal).current.map (fun o => (o.stream, o.transitions)) =
        d.current.map fun o => (o.stream, o.transitions) := by
  have hforfeit : (forfeit (d.note (.received k signal)) k signal).settled = d.settled ∧
      (forfeit (d.note (.received k signal)) k signal).counters.droppedEvents =
        d.counters.droppedEvents := by
    cases signal with
    | batch b => simp [forfeit, DeliveryEvent.settled]
    | transition t => cases h
    | error code message => simp [forfeit, DeliveryEvent.settled]
  have hadmit : ∀ o : Outlet,
      ((d.note (.received k signal)).lose k (o.publish signal).2).settled = d.settled ∧
        ((d.note (.received k signal)).lose k (o.publish signal).2).counters.droppedEvents =
          d.counters.droppedEvents ∧
        (o.publish signal).1.transitions = o.transitions := by
    intro o
    cases signal with
    | batch b =>
        simp only [Outlet.publish, Outlet.publishBatch]
        split
        · exact ⟨(Consumers.note_settled _ _).trans (List.append_nil _), rfl, rfl⟩
        · refine ⟨?_, rfl, rfl⟩
          simp only [Consumers.lose, Consumers.settled, Consumers.note]
          simp [DeliveryEvent.settled]
    | transition t => cases h
    | error code message =>
        exact ⟨(Consumers.note_settled _ _).trans (List.append_nil _), rfl, rfl⟩
  unfold publish
  cases ho : d.current with
  | none => exact ⟨hforfeit.1, hforfeit.2, by simp⟩
  | some o =>
      by_cases hk : o.stream = k
      · simp only [if_pos hk]
        obtain ⟨hsettled, hdropped, htransitions⟩ := hadmit o
        exact ⟨hsettled, hdropped, by simp [o.publish_stream, htransitions]⟩
      · simp only [if_neg hk]
        exact ⟨hforfeit.1, hforfeit.2, by simp⟩

/-- A publication hands in the transition that the signal is. -/
theorem publish_receivedTransitions (d : Delivery) (k : Nat) (signal : Signal) :
    (d.publish k signal).receivedTransitions =
      d.receivedTransitions ++ (signal.transition?.map (Prod.mk k)).toList := by
  rw [receivedTransitions, (d.publish_frame k signal).calls.received, Consumers.note_received]
  cases hs : signal.transition? <;> simp [receivedTransitions, DeliveryEvent.received?, hs]

/-! ### The delivery side -/

variable {d d' : Delivery} {n : Nat}

/-- Where fates and waiting transitions stay as they are, so does the law. -/
theorem KeepsTransitions.of_frame (hk : d.KeepsTransitions)
    (hreceived : d'.receivedTransitions = d.receivedTransitions) (hsettled : d'.settled = d.settled)
    (hdropped : d'.counters.droppedEvents = d.counters.droppedEvents)
    (hwaiting : d'.waitingTransitions = d.waitingTransitions)
    (hemptied : ∀ o ∈ d'.retired, o.transitions.items = [])
    (hcapacity : ∀ o, d'.current = some o → o.transitions.capacity = transitionCapacity) :
    d'.KeepsTransitions := by
  refine ⟨fun k => ?_, ?_, ?_, hemptied, hcapacity⟩
  · rw [hreceived, hsettled, hwaiting]
    exact hk.ordered k
  · rw [hreceived, deliveredTransitions, hsettled, hwaiting]
    exact hk.delivered
  · rw [hdropped, settledAs, hsettled]
    exact hk.counted

/-- A transition that stops waiting has its fate settled next. -/
theorem KeepsTransitions.settle (hk : d.KeepsTransitions) {k : Nat} {t : Transition}
    {rest : List (Nat × Transition)} {fate : Fate}
    (hreceived : d'.receivedTransitions = d.receivedTransitions)
    (hsettled : d'.settled = d.settled ++ [⟨k, t, fate⟩])
    (hdropped : d'.counters.droppedEvents = d.counters.droppedEvents)
    (hfate : fate = .unclaimed ∨ ∃ consumer, fate = .delivered consumer)
    (hwaiting : d.waitingTransitions = (k, t) :: rest) (hwaiting' : d'.waitingTransitions = rest)
    (hemptied : ∀ o ∈ d'.retired, o.transitions.items = [])
    (hcapacity : ∀ o, d'.current = some o → o.transitions.capacity = transitionCapacity) :
    d'.KeepsTransitions := by
  have hsublist : (d'.deliveredTransitions ++ d'.waitingTransitions).Sublist
      (d.deliveredTransitions ++ d.waitingTransitions) := by
    rw [deliveredTransitions, hsettled, hwaiting, hwaiting', List.filter_append, List.map_append,
      List.append_assoc]
    refine List.Sublist.append_left ?_ _
    rcases hfate with rfl | ⟨consumer, rfl⟩
    · exact List.sublist_cons_self _ _
    · exact .refl _
  refine ⟨fun j => ?_, ?_, ?_, hemptied, hcapacity⟩
  · rw [hreceived, hk.ordered j, hsettled, hwaiting, hwaiting', List.map_append, ofStream_append,
      List.append_assoc, ← List.singleton_append, ofStream_append]
    rfl
  · rw [hreceived]
    exact hsublist.trans hk.delivered
  · rw [hdropped, hk.counted, settledAs, settledAs, hsettled, List.filter_append, List.map_append]
    rcases hfate with rfl | ⟨consumer, rfl⟩ <;> simp

theorem Turn.keepsTransitions (h : Turn d d') (ht : d.Tidy) (hk : d.KeepsTransitions) :
    d'.KeepsTransitions := by
  have hreceived : d'.receivedTransitions = d.receivedTransitions := by
    rw [receivedTransitions, h.loses_nothing.1, ← receivedTransitions]
  cases h with
  | @worked o o' c' ho hwork =>
      obtain ⟨hdropped, hcapacity, hcases⟩ := hwork.settles
      have hcapacity' : ∀ x, some o' = some x → x.transitions.capacity = transitionCapacity := by
        rintro x hx
        rw [← Option.some.inj hx, hcapacity, hk.capacity o ho]
      have hwaiting : d.waitingTransitions = o.waitingTransitions := by simp [waitingTransitions, ho]
      rcases hcases with ⟨hsettled, hitems⟩ | ⟨t, rest, fate, -, hold, hitems, hfate, hsettled⟩
      · refine hk.of_frame hreceived hsettled hdropped ?_ hk.emptied hcapacity'
        rw [hwaiting]
        simp [waitingTransitions, Outlet.waitingTransitions, hitems, hwork.closed_eq.2]
      · have hfirst : d.waitingTransitions = (o.stream, t) :: rest.map (Prod.mk o.stream) := by
          rw [hwaiting, Outlet.waitingTransitions, hold, List.map_cons]
        refine hk.settle hreceived hsettled hdropped hfate hfirst ?_ hk.emptied hcapacity'
        simp [waitingTransitions, Outlet.waitingTransitions, hitems, hwork.closed_eq.2]
  | @workedRetired before after o o' c' hr hwork =>
      -- A retired outlet is closed, and so nothing is taken up.
      obtain ⟨hdropped, -, hcases⟩ := hwork.settles
      have hclosed := (ht.retired o (by rw [hr]; exact List.mem_append_right _ List.mem_cons_self)).1
      rcases hcases with ⟨hsettled, hitems⟩ | ⟨t, rest, fate, hopen, -⟩
      · exact hk.of_frame hreceived hsettled hdropped rfl
          (forall_mem_replaced (hr ▸ hk.emptied) fun hempty => hitems.trans hempty) hk.capacity
      · rw [hclosed] at hopen
        cases hopen
  | letGo hr _ =>
      exact hk.of_frame hreceived rfl rfl rfl (forall_mem_removed (hr ▸ hk.emptied)) hk.capacity
  | registered kind consumer =>
      exact hk.of_frame hreceived (Consumers.setRegistration_settled _ _ _)
        (congrArg DeliveryCounters.droppedEvents (Consumers.setRegistration_counters _ _ _)) rfl
        hk.emptied hk.capacity
  | held kind on => exact hk.of_frame hreceived rfl rfl rfl hk.emptied hk.capacity

/-- A publication keeps the law: a transition that enters pushes out the oldest one at most. -/
theorem KeepsTransitions.enters (hk : d.KeepsTransitions) {k : Nat} {t : Transition}
    (h : Enters k t d d')
    (hreceived : d'.receivedTransitions = d.receivedTransitions ++ [(k, t)])
    (hretired : d'.retired = d.retired) : d'.KeepsTransitions := by
  have hemptied : ∀ o ∈ d'.retired, o.transitions.items = [] := hretired ▸ hk.emptied
  cases h with
  | late hne hcurrent hsettled hdropped =>
      have hwaiting : d'.waitingTransitions = d.waitingTransitions := by
        rw [waitingTransitions, hcurrent, ← waitingTransitions]
      have hnone : ofStream k d.waitingTransitions = [] := by
        cases ho : d.current with
        | none => simp [waitingTransitions, ho]
        | some o =>
            simp [waitingTransitions, ho, Outlet.waitingTransitions, hne o ho]
      refine ⟨fun j => ?_, ?_, ?_, hemptied, hcurrent ▸ hk.capacity⟩
      · rw [hreceived, hsettled, hwaiting, List.map_append, ofStream_append, ofStream_append,
          hk.ordered j]
        by_cases hj : k = j
        · rw [← hj, hnone, List.append_nil, List.append_nil]
          rfl
        · simp [Settlement.published, hj]
      · rw [hreceived, deliveredTransitions, hsettled, hwaiting, List.filter_append]
        simp only [List.map_append]
        exact (List.append_nil _).symm ▸ hk.delivered.trans (List.sublist_append_left _ _)
      · rw [hdropped, hk.counted, settledAs, settledAs, hsettled, List.filter_append]
        simp
  | @queued o queue ho hstream hcurrent hcapacity hitems hsettled hdropped =>
      have hwaiting : d'.waitingTransitions = d.waitingTransitions ++ [(k, t)] := by
        simp [waitingTransitions, Outlet.waitingTransitions, ho, hcurrent, hitems, hstream]
      refine ⟨fun j => ?_, ?_, ?_, hemptied, ?_⟩
      · rw [hreceived, hsettled, hwaiting, ofStream_append, ofStream_append, hk.ordered j,
          List.append_assoc]
      · rw [hreceived, deliveredTransitions, hsettled, hwaiting, ← List.append_assoc]
        exact hk.delivered.append (.refl _)
      · rw [hdropped, settledAs, hsettled]
        exact hk.counted
      · rintro x hx
        rw [hcurrent, Option.some.injEq] at hx
        rw [← hx, ← hk.capacity o ho, ← hcapacity]
  | @evicted o queue oldest rest ho hstream hold hfull hcurrent hcapacity hitems hsettled
      hdropped =>
      have hbefore : d.waitingTransitions = (k, oldest) :: rest.map (Prod.mk k) := by
        simp [waitingTransitions, Outlet.waitingTransitions, ho, hold, hstream]
      have hwaiting : d'.waitingTransitions = rest.map (Prod.mk k) ++ [(k, t)] := by
        simp [waitingTransitions, Outlet.waitingTransitions, hcurrent, hitems, hstream]
      refine ⟨fun j => ?_, ?_, ?_, hemptied, ?_⟩
      · rw [hreceived, hsettled, hwaiting, List.map_append, ofStream_append, ofStream_append,
          ofStream_append, hk.ordered j, hbefore, ← List.singleton_append, ofStream_append]
        simp only [List.append_assoc]
        rfl
      · rw [hreceived, deliveredTransitions, hsettled, hwaiting, List.filter_append]
        have hdelivered := hk.delivered
        rw [hbefore] at hdelivered
        simp only [List.map_append, ← List.append_assoc]
        refine List.Sublist.append (.trans ?_ hdelivered) (.refl _)
        exact (List.append_nil d.deliveredTransitions).symm ▸
          (List.sublist_cons_self _ _).append_left _
      · rw [hdropped, hk.counted, settledAs, settledAs, hsettled, List.filter_append]
        simp
      · rintro x hx
        rw [hcurrent, Option.some.injEq] at hx
        rw [← hx, ← hk.capacity o ho, ← hcapacity]

theorem publish_keepsTransitions (hk : d.KeepsTransitions) (k : Nat) (signal : Signal) :
    (d.publish k signal).KeepsTransitions := by
  have hreceived := d.publish_receivedTransitions k signal
  have hretired := (d.publish_frame k signal).retired
  cases hs : signal.transition? with
  | some t =>
      obtain rfl : signal = .transition t := by
        cases signal <;> simp_all [Signal.transition?]
      exact hk.enters (d.publish_enters k t) hreceived hretired
  | none =>
      rw [hs, Option.map_none, Option.toList_none, List.append_nil] at hreceived
      obtain ⟨hsettled, hdropped, hcurrent⟩ := d.publish_settled_of_none k hs
      refine hk.of_frame hreceived hsettled hdropped ?_ (hretired ▸ hk.emptied) ?_
      · rw [waitingTransitions_eq, waitingTransitions_eq, hcurrent]
      · intro o' ho'
        rw [ho', Option.map_some] at hcurrent
        obtain ⟨o, ho, heq⟩ := Option.map_eq_some_iff.mp hcurrent.symm
        rw [← (Prod.mk.inj heq).2]
        exact hk.capacity o ho

/-- Every change gives a transition one fate, or lets it wait. -/
theorem Change.keepsTransitions (h : Change n d d') (ht : d.Tidy) (hk : d.KeepsTransitions) :
    d'.KeepsTransitions := by
  cases h with
  | turned hturn => exact hturn.keepsTransitions ht hk
  | received signal _ => exact publish_keepsTransitions hk _ signal
  | opened hnone _ _ _ =>
      refine hk.of_frame rfl rfl rfl ?_ hk.emptied ?_
      · simp [waitingTransitions, Outlet.waitingTransitions, openStream, hnone, Outlet.opened]
      · intro o ho
        rw [← Option.some.inj ho]
        rfl
  | @closed o ho =>
      have hwaiting : d.waitingTransitions = o.waitingTransitions := by
        simp [waitingTransitions, ho]
      have hreceived := d.closeStream_received
      rw [closeStream_eq ho] at hreceived ⊢
      have hsettled : (d.note (.discarded o.stream o.batches.items o.transitions.items)).settled =
          d.settled ++ o.transitions.items.map (⟨o.stream, ·, .discarded⟩) :=
        Consumers.note_settled _ _
      refine ⟨fun k => ?_, ?_, ?_, ?_, by simp⟩
      · rw [receivedTransitions, hreceived, ← receivedTransitions, hk.ordered k, hwaiting]
        simp [waitingTransitions, hsettled, Settlement.published, Outlet.waitingTransitions,
          Function.comp_def]
      · rw [receivedTransitions, hreceived, ← receivedTransitions, deliveredTransitions, hsettled,
          List.filter_append, List.map_append]
        have hnone : (o.transitions.items.map (Settlement.mk o.stream · .discarded)).filter
            (fun s => s.fate.isDelivered) = [] := by
          simp [Fate.isDelivered]
        rw [hnone, List.map_nil, List.append_nil, ← deliveredTransitions]
        exact .trans (List.Sublist.append_left (List.nil_sublist _) _) hk.delivered
      · rw [settledAs, hsettled, List.filter_append]
        have hnone : (o.transitions.items.map (Settlement.mk o.stream · .discarded)).filter
            (fun s => s.fate = .evicted) = [] := by
          simp
        rw [hnone, List.append_nil]
        exact hk.counted
      · intro x hx
        by_cases hbusy : o.isBusy
        · simp only [if_pos hbusy, List.mem_append, List.mem_singleton] at hx
          rcases hx with hmem | rfl
          · exact hk.emptied x hmem
          · exact o.transitions.clear_items
        · simp only [if_neg hbusy] at hx
          exact hk.emptied x hx

/-- Lists that agree stream by stream hold the same entries. -/
theorem perm_of_ofStream {l m : List (Nat × Transition)} (h : ∀ k, ofStream k l = ofStream k m) :
    l.Perm m := by
  have hcount : ∀ (l : List (Nat × Transition)) (k : Nat) (t : Transition),
      (ofStream k l).count t = l.count (k, t) := by
    intro l k t
    induction l with
    | nil => rfl
    | cons p rest ih =>
        obtain ⟨j, u⟩ := p
        by_cases hj : j = k
        · rw [ofStream, List.filterMap_cons_some (by rw [if_pos hj]), List.count_cons, ← ofStream, ih,
            List.count_cons]
          simp [hj]
        · rw [ofStream, List.filterMap_cons_none (by rw [if_neg hj]), ← ofStream, ih,
            List.count_cons]
          simp [hj]
  rw [List.perm_iff_count]
  rintro ⟨k, t⟩
  rw [← hcount, ← hcount, h k]

/-- No transition is forgotten, and none has two fates. -/
theorem KeepsTransitions.perm (hk : d.KeepsTransitions) :
    d.receivedTransitions.Perm (d.settled.map Settlement.published ++ d.waitingTransitions) :=
  perm_of_ofStream fun k => by rw [ofStream_append, hk.ordered k]

end Delivery

end QuadDaq

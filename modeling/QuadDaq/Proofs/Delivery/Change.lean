import Mathlib.Logic.Relation
import QuadDaq.Delivery.Basic

/-!
# Changes of the delivery side

**Everything that can become of consumers and outlets, as a relation.** A worker takes
single steps on one outlet (`Work`): a call begins, or a call comes to its end. The
delivery side changes by such steps, by signals handed in, and by streams that open and
close (`Delivery.Change`).

The functions that run workers "until nothing waits" are sequences of these steps
(`runWorkers_works`, `endCalls_turns`), so an invariant never has to look at how long
a worker runs or in which order the outlets are visited.
-/

namespace QuadDaq

open Relation (ReflTransGen)

/-! ### Workers -/

/-- One step of a worker on an outlet. -/
inductive Work : Consumers × Outlet → Consumers × Outlet → Prop
  /-- The data worker takes up the oldest batch and calls the consumer. -/
  | batchBegan {c : Consumers} {o : Outlet} {b : Batch} {rest : List Batch} :
      o.closed = false →
      o.dataCall = none →
      o.batches.items = b :: rest →
      Work (c, o) (c.note (.batch o.stream b o.dropped),
        { o with batches := o.batches.pop.1, dropped := 0, dataCall := some b })
  /-- The data consumer returns. -/
  | batchEnded {c : Consumers} {o : Outlet} {b : Batch} :
      o.dataCall = some b →
      Work (c, o) (c.batchDone o.stream b, { o with dataCall := none })
  /-- The event worker takes up an event. -/
  | eventBegan {c c' : Consumers} {o o' : Outlet} {kind : EventKind} :
      c.beginEvent o = some (kind, c', o') →
      Work (c, o) (c', o')
  /-- An event consumer returns. -/
  | eventEnded {c : Consumers} {o : Outlet} {call : EventCall} :
      o.eventCall = some call →
      Work (c, o) (c.eventDone call, { o with eventCall := none })

namespace Consumers

/-- The data worker of an open outlet that is inside no call takes up the oldest batch. -/
theorem beginBatch_eq (c : Consumers) {o : Outlet} (hopen : o.closed = false)
    (hcall : o.dataCall = none) :
    c.beginBatch o = o.batches.items.head?.map fun b =>
      (c.note (.batch o.stream b o.dropped),
        { o with batches := o.batches.pop.1, dropped := 0, dataCall := some b }) := by
  unfold beginBatch
  rw [if_neg (by simp [hopen, hcall])]
  cases hitems : o.batches.items with
  | nil => simp [Outlet.takeBatch, DropOldest.pop, hitems]
  | cons b rest => simp [Outlet.takeBatch, DropOldest.pop, hitems]

theorem beginBatch_work {c c' : Consumers} {o o' : Outlet} (h : c.beginBatch o = some (c', o')) :
    Work (c, o) (c', o') := by
  cases hopen : o.closed with
  | true => simp [beginBatch, hopen] at h
  | false =>
      cases hcall : o.dataCall with
      | some b => simp [beginBatch, hcall] at h
      | none =>
          rw [c.beginBatch_eq hopen hcall, Option.map_eq_some_iff] at h
          obtain ⟨b, hb, heq⟩ := h
          obtain ⟨rfl, rfl⟩ := Prod.mk.inj heq
          obtain ⟨rest, hitems⟩ := List.head?_eq_some_iff.mp hb
          exact .batchBegan hopen hcall hitems

theorem endBatch_works (c : Consumers) (o : Outlet) : ReflTransGen Work (c, o) (c.endBatch o) := by
  unfold endBatch
  cases h : o.dataCall with
  | none => exact .refl
  | some b => exact .single (.batchEnded h)

theorem runData_works (n : Nat) :
    ∀ (c : Consumers) (o : Outlet), ReflTransGen Work (c, o) (runData n c o) := by
  induction n with
  | zero => exact fun c o => .refl
  | succ n ih =>
      intro c o
      unfold runData
      cases h : c.beginBatch o with
      | none => exact .refl
      | some p =>
          have hbegin : Work (c, o) p := beginBatch_work h
          by_cases hheld : p.1.holds.data
          · simp only [if_pos hheld]
            exact .single hbegin
          · simp only [if_neg hheld]
            exact .head hbegin ((endBatch_works p.1 p.2).trans (ih _ _))

theorem endEvent_works (kind : EventKind) (c : Consumers) (o : Outlet) :
    ReflTransGen Work (c, o) (c.endEvent kind o) := by
  unfold endEvent
  cases h : o.eventCall with
  | none => exact .refl
  | some call =>
      by_cases hkind : call.kind = kind
      · simp only [if_pos hkind]
        exact .single (.eventEnded h)
      · simp only [if_neg hkind]
        exact .refl

theorem runEvents_works (n : Nat) :
    ∀ (c : Consumers) (o : Outlet), ReflTransGen Work (c, o) (runEvents n c o) := by
  induction n with
  | zero => exact fun c o => .refl
  | succ n ih =>
      intro c o
      unfold runEvents
      cases h : c.beginEvent o with
      | none => exact .refl
      | some p =>
          have hbegin : Work (c, o) p.2 := .eventBegan h
          by_cases hheld : p.2.1.holds.event p.1
          · simp only [if_pos hheld]
            exact .head hbegin (ih _ _)
          · simp only [if_neg hheld]
            exact .head hbegin ((endEvent_works p.1 p.2.1 p.2.2).trans (ih _ _))

theorem runWorkers_works (c : Consumers) (o : Outlet) :
    ReflTransGen Work (c, o) (c.runWorkers o) := by
  have hdata := runData_works (o.batches.size + 1) c o
  unfold runWorkers
  generalize runData (o.batches.size + 1) c o = p at hdata ⊢
  exact hdata.trans (runEvents_works _ p.1 p.2)

theorem endCall_works (kind : ConsumerKind) (c : Consumers) (o : Outlet) :
    ReflTransGen Work (c, o) (c.endCall kind o) := by
  cases kind with
  | data => exact endBatch_works c o
  | button => exact endEvent_works .button c o
  | error => exact endEvent_works .error c o

theorem endCallOf_works (chosen : Nat → Bool) (kind : ConsumerKind) (c : Consumers) (o : Outlet) :
    ReflTransGen Work (c, o) (c.endCallOf chosen kind o) := by
  unfold endCallOf
  by_cases h : chosen o.stream
  · simp only [if_pos h]
    exact (endCall_works kind c o).trans (runWorkers_works _ _)
  · simp only [if_neg h]
    exact runWorkers_works c o

end Consumers

/-! ### The delivery side -/

/-- The number of the stream that an event is about. -/
def DeliveryEvent.stream : DeliveryEvent → Nat
  | .received k _ | .batch k _ _ | .batchDone k _ | .transition k _ _ | .transitionUnclaimed k _
  | .errors k _ _ | .errorsUnclaimed k _ | .lost k _ | .discarded k _ _ => k

/-- The log tells of no stream with a greater number than `n`. -/
def Consumers.Numbered (n : Nat) (c : Consumers) : Prop := ∀ event ∈ c.log.toList, event.stream ≤ n

namespace Delivery

/-- No stream has a greater number than `n`. -/
structure Numbered (n : Nat) (d : Delivery) : Prop where
  log : d.toConsumers.Numbered n
  current : ∀ o, d.current = some o → o.stream ≤ n
  retired : ∀ o ∈ d.retired, o.stream ≤ n

/-- What consumers and workers do on their own. -/
inductive Turn : Delivery → Delivery → Prop
  /-- A worker of the current outlet takes a step. -/
  | worked {d : Delivery} {o o' : Outlet} {c' : Consumers} :
      d.current = some o →
      Work (d.toConsumers, o) (c', o') →
      Turn d { d with toConsumers := c', current := some o' }
  /-- A worker of a retired outlet takes a step. -/
  | workedRetired {d : Delivery} {before after : List Outlet} {o o' : Outlet} {c' : Consumers} :
      d.retired = before ++ o :: after →
      Work (d.toConsumers, o) (c', o') →
      Turn d { d with toConsumers := c', retired := before ++ o' :: after }
  /-- A retired outlet without a call is let go. -/
  | letGo {d : Delivery} {before after : List Outlet} {o : Outlet} :
      d.retired = before ++ o :: after →
      o.isBusy = false →
      Turn d { d with retired := before ++ after }
  /-- An event consumer is registered. -/
  | registered (d : Delivery) (kind : EventKind) (consumer : String) :
      Turn d (d.register kind consumer)
  /-- Consumers of a kind are held, or no longer held. -/
  | held (d : Delivery) (kind : ConsumerKind) (on : Bool) :
      Turn d { d with toConsumers := d.toConsumers.setHold kind on }

/-- What can become of the delivery side as long as no stream has a greater number than
`n`. -/
inductive Change (n : Nat) : Delivery → Delivery → Prop
  | turned {d d' : Delivery} : Turn d d' → Change n d d'
  /-- A stream hands in a signal. -/
  | received (d : Delivery) {k : Nat} (signal : Signal) :
      k ≤ n →
      Change n d (d.publish k signal)
  /-- A stream with a new number opens. -/
  | opened {d : Delivery} {m k capacity : Nat} :
      d.current = none →
      d.Numbered m →
      m < k →
      k ≤ n →
      Change n d (d.openStream k capacity)
  /-- The current stream closes. -/
  | closed {d : Delivery} {o : Outlet} : d.current = some o → Change n d d.closeStream

/-- Closing the current stream throws away what waits, and keeps the outlet only if it
is inside a call. -/
theorem closeStream_eq {d : Delivery} {o : Outlet} (ho : d.current = some o) :
    d.closeStream = { d with
      toConsumers := d.note (.discarded o.stream o.batches.items o.transitions.items)
      current := none
      retired := if o.isBusy then d.retired ++ [o.close.1] else d.retired } := by
  simp only [closeStream, ho]
  rfl

/-! ### Functions as changes -/

variable {n : Nat}

theorem publishAll_changes {k : Nat} (hk : k ≤ n) (signals : List Signal) :
    ∀ d : Delivery, ReflTransGen (Change n) d (d.publishAll k signals) := by
  induction signals with
  | nil => exact fun d => .refl
  | cons s rest ih => exact fun d => .head (.received d s hk) (ih (d.publish k s))

theorem worked_turns {d : Delivery} {o : Outlet} (ho : d.current = some o)
    {p : Consumers × Outlet} (h : ReflTransGen Work (d.toConsumers, o) p) :
    ReflTransGen Turn d { d with toConsumers := p.1, current := some p.2 } := by
  induction h with
  | refl =>
      have hd : d = { d with current := some o } := by rw [← ho]
      exact hd ▸ .refl
  | tail _ hstep ih => exact ih.tail (.worked rfl hstep)

theorem workedRetired_turns {d : Delivery} {before after : List Outlet} {o : Outlet}
    (ho : d.retired = before ++ o :: after) {p : Consumers × Outlet}
    (h : ReflTransGen Work (d.toConsumers, o) p) :
    ReflTransGen Turn d
      { d with toConsumers := p.1, retired := before ++ p.2 :: after } := by
  induction h with
  | refl =>
      have hd : d = { d with retired := before ++ o :: after } := by rw [← ho]
      exact hd ▸ .refl
  | tail _ hstep ih => exact ih.tail (.workedRetired rfl hstep)

theorem deliver_turns (d : Delivery) : ReflTransGen Turn d d.deliver := by
  unfold deliver
  cases ho : d.current with
  | none => exact .refl
  | some o => exact worked_turns ho (Consumers.runWorkers_works d.toConsumers o)

/-- Visiting retired outlets one after the other; `before` are those that were visited
and stay. -/
theorem endCallsOf_turns (chosen : Nat → Bool) (kind : ConsumerKind) (rest : List Outlet) :
    ∀ (d : Delivery) (before : List Outlet), d.retired = before ++ rest →
      ReflTransGen Turn d
        { d with
          toConsumers := (d.toConsumers.endCallsOf chosen kind rest).1
          retired := before ++ (d.toConsumers.endCallsOf chosen kind rest).2 } := by
  induction rest with
  | nil =>
      intro d before ho
      have hd : d = { d with retired := before ++ [] } := by rw [← ho]
      exact hd ▸ .refl
  | cons o rest ih =>
      intro d before ho
      have hwork := workedRetired_turns ho
        (Consumers.endCallOf_works chosen kind d.toConsumers o)
      unfold Consumers.endCallsOf
      generalize d.toConsumers.endCallOf chosen kind o = p at hwork ⊢
      -- A busy outlet joins those that stay; any other one is let go.
      by_cases hbusy : p.2.isBusy
      · simp only [if_pos hbusy]
        have hrest := ih { d with toConsumers := p.1, retired := before ++ p.2 :: rest }
          (before ++ [p.2]) (by simp)
        simp only [List.append_assoc, List.singleton_append] at hrest
        exact hwork.trans hrest
      · simp only [if_neg hbusy]
        have hgo := hwork.tail (.letGo rfl (by simpa using hbusy))
        exact hgo.trans (ih { d with toConsumers := p.1, retired := before ++ rest } before rfl)

theorem endCalls_turns (chosen : Nat → Bool) (kind : ConsumerKind) (d : Delivery) :
    ReflTransGen Turn d (d.endCalls chosen kind) := by
  have hretired := endCallsOf_turns chosen kind d.retired d [] rfl
  unfold endCalls
  generalize d.toConsumers.endCallsOf chosen kind d.retired = p at hretired ⊢
  cases ho : d.current with
  | none =>
      rw [ho] at hretired
      exact hretired
  | some o =>
      have hcurrent := worked_turns (d := { d with toConsumers := p.1, retired := p.2 }) ho
        (Consumers.endCallOf_works chosen kind p.1 o)
      exact hretired.trans hcurrent

theorem finish_turns (d : Delivery) (stream : Nat) (kind : ConsumerKind) :
    ReflTransGen Turn d (d.finish stream kind) :=
  endCalls_turns _ kind d

theorem release_turns (d : Delivery) (kind : ConsumerKind) :
    ReflTransGen Turn d (d.release kind) :=
  .head (.held d kind false) (endCalls_turns _ kind (d.unhold kind))

end Delivery

/-! ### Numbers of streams -/

section Outlets

variable {P : Outlet → Prop} {before after : List Outlet} {o o' : Outlet}

/-- What holds of all outlets still does when one of them is replaced. -/
theorem forall_mem_replaced (h : ∀ x ∈ before ++ o :: after, P x) (ho' : P o → P o') :
    ∀ x ∈ before ++ o' :: after, P x := by
  rw [List.forall_mem_append, List.forall_mem_cons] at h ⊢
  exact ⟨h.1, ho' h.2.1, h.2.2⟩

theorem forall_mem_removed (h : ∀ x ∈ before ++ o :: after, P x) :
    ∀ x ∈ before ++ after, P x := by
  rw [List.forall_mem_append, List.forall_mem_cons] at h
  rw [List.forall_mem_append]
  exact ⟨h.1, h.2.2⟩

end Outlets

namespace Consumers

variable {n : Nat} {c c' : Consumers} {o o' : Outlet}

theorem Numbered.note (h : c.Numbered n) {event : DeliveryEvent} (hle : event.stream ≤ n) :
    (c.note event).Numbered n := by
  intro e he
  rw [Consumers.note, Array.toList_push] at he
  rcases List.mem_append.mp he with hold | hnew
  · exact h e hold
  · rw [List.mem_singleton.mp hnew]
    exact hle

theorem setRegistration_log (c : Consumers) (kind : EventKind) (r : Registration String) :
    (c.setRegistration kind r).log = c.log := by
  cases kind <;> rfl

theorem Numbered.setRegistration (h : c.Numbered n) (kind : EventKind) (r : Registration String) :
    (c.setRegistration kind r).Numbered n := by
  rw [Consumers.Numbered, setRegistration_log]
  exact h

theorem Numbered.lose (h : c.Numbered n) {k : Nat} (hk : k ≤ n) (loss : Option Loss) :
    (c.lose k loss).Numbered n := by
  rcases loss with _ | (b | t)
  · exact h
  · exact Numbered.note h hk
  · exact Numbered.note h hk

/-- Calling the consumer of an event adds one entry. -/
theorem beginCall_log {kind : EventKind} {called : String → DeliveryEvent}
    {unclaimed : DeliveryEvent} (hcall : c.beginCall o kind called unclaimed = (c', o')) {k : Nat}
    (hcalled : ∀ consumer, (called consumer).stream = k) (hunclaimed : unclaimed.stream = k) :
    ∃ event, c'.log.toList = c.log.toList ++ [event] ∧ event.stream = k ∧ o'.stream = o.stream := by
  unfold Consumers.beginCall at hcall
  split at hcall
  · obtain ⟨rfl, rfl⟩ := Prod.mk.inj hcall
    exact ⟨unclaimed, Array.toList_push, hunclaimed, rfl⟩
  · next place loan _ =>
      obtain ⟨rfl, rfl⟩ := Prod.mk.inj hcall
      refine ⟨called loan.consumer, ?_, hcalled _, rfl⟩
      rw [Consumers.note, Array.toList_push, setRegistration_log]

/-- So does taking up an event, and the entry is about the stream of the outlet. -/
theorem beginEvent_log {kind : EventKind} (hbegin : c.beginEvent o = some (kind, c', o')) :
    ∃ event, c'.log.toList = c.log.toList ++ [event] ∧ event.stream = o.stream ∧
      o'.stream = o.stream := by
  unfold Consumers.beginEvent at hbegin
  split at hbegin
  · cases hbegin
  · split at hbegin
    · next o₁ t htake =>
        have hstream : o₁.stream = o.stream := by
          rw [← show o.takeTransition.1 = o₁ from congrArg Prod.fst htake]
          rfl
        rw [← hstream]
        exact beginCall_log (Prod.mk.inj (Option.some.inj hbegin)).2 (fun _ => rfl) rfl
    · split at hbegin
      · cases hbegin
      · next o₁ errors htake =>
          have hstream : o₁.stream = o.stream := by
            rw [← show o.takeErrors.1 = o₁ from congrArg Prod.fst htake, Outlet.takeErrors]
            split <;> rfl
          rw [← hstream]
          exact beginCall_log (Prod.mk.inj (Option.some.inj hbegin)).2 (fun _ => rfl) rfl

end Consumers

/-- A worker adds to the log, and only entries about the stream of its outlet. -/
theorem Work.log {c c' : Consumers} {o o' : Outlet} (h : Work (c, o) (c', o')) :
    (∃ added, c'.log.toList = c.log.toList ++ added ∧ ∀ event ∈ added, event.stream = o.stream) ∧
      o'.stream = o.stream := by
  cases h with
  | batchBegan _ _ _ => exact ⟨⟨[_], Array.toList_push, by simp [DeliveryEvent.stream]⟩, rfl⟩
  | batchEnded _ => exact ⟨⟨[_], Array.toList_push, by simp [DeliveryEvent.stream]⟩, rfl⟩
  | eventBegan hbegin =>
      obtain ⟨event, hlog, hevent, hstream⟩ := Consumers.beginEvent_log hbegin
      exact ⟨⟨[event], hlog, by simpa using hevent⟩, hstream⟩
  | eventEnded _ =>
      refine ⟨⟨[], ?_, by simp⟩, rfl⟩
      rw [List.append_nil, Consumers.eventDone, Consumers.setRegistration_log]

theorem Work.numbered {n : Nat} {c c' : Consumers} {o o' : Outlet} (h : Work (c, o) (c', o'))
    (hc : c.Numbered n) (ho : o.stream ≤ n) : c'.Numbered n ∧ o'.stream = o.stream := by
  obtain ⟨⟨added, hlog, hadded⟩, hstream⟩ := h.log
  refine ⟨?_, hstream⟩
  intro event hevent
  rw [hlog] at hevent
  rcases List.mem_append.mp hevent with hold | hnew
  · exact hc event hold
  · rw [hadded event hnew]
    exact ho

theorem Outlet.publish_stream (o : Outlet) (signal : Signal) :
    (o.publish signal).1.stream = o.stream := by
  cases signal with
  | batch b =>
      simp only [publish, publishBatch]
      split <;> rfl
  | transition t =>
      simp only [publish, publishTransition]
      split <;> rfl
  | error code message => rfl

namespace Delivery

theorem Numbered.mono {m n : Nat} {d : Delivery} (hd : d.Numbered m) (h : m ≤ n) : d.Numbered n :=
  ⟨fun event hevent => Nat.le_trans (hd.log event hevent) h,
    fun o ho => Nat.le_trans (hd.current o ho) h,
    fun o ho => Nat.le_trans (hd.retired o ho) h⟩

theorem Numbered.publish {n : Nat} {d : Delivery} (hd : d.Numbered n) {k : Nat} (hk : k ≤ n)
    (signal : Signal) : (d.publish k signal).Numbered n := by
  have hreceived : (d.note (.received k signal)).Numbered n := hd.log.note hk
  have hforfeit : (forfeit (d.note (.received k signal)) k signal).Numbered n := by
    cases signal with
    | batch b => exact hreceived.note hk
    | transition t => exact hreceived.note hk
    | error code message => exact hreceived
  unfold Delivery.publish
  cases hcurrent : d.current with
  | none => exact ⟨hforfeit, by simp, hd.retired⟩
  | some o =>
      by_cases hstream : o.stream = k
      · simp only [if_pos hstream]
        refine ⟨hreceived.lose hk _, ?_, hd.retired⟩
        intro o' ho'
        rw [← Option.some.inj ho', o.publish_stream, hstream]
        exact hk
      · simp only [if_neg hstream]
        exact ⟨hforfeit, hcurrent ▸ hd.current, hd.retired⟩

theorem Turn.numbered {n : Nat} {d d' : Delivery} (h : Turn d d') (hd : d.Numbered n) :
    d'.Numbered n := by
  cases h with
  | worked ho hwork =>
      obtain ⟨hc, hstream⟩ := hwork.numbered hd.log (hd.current _ ho)
      refine ⟨hc, ?_, hd.retired⟩
      intro o' ho'
      rw [← Option.some.inj ho', hstream]
      exact hd.current _ ho
  | @workedRetired before after o o' _ hr hwork =>
      have hold := hd.retired
      rw [hr] at hold
      obtain ⟨hc, hstream⟩ := hwork.numbered hd.log (hold o (by simp))
      exact ⟨hc, hd.current, forall_mem_replaced hold fun ho => hstream ▸ ho⟩
  | letGo hr _ => exact ⟨hd.log, hd.current, forall_mem_removed (hr ▸ hd.retired)⟩
  | registered kind consumer =>
      exact ⟨hd.log.setRegistration _ _, hd.current, hd.retired⟩
  | held kind on => exact ⟨hd.log, hd.current, hd.retired⟩

/-- Changes among the streams up to `n` lead to no other stream. -/
theorem Change.numbered {n : Nat} {d d' : Delivery} (h : Change n d d') (hd : d.Numbered n) :
    d'.Numbered n := by
  cases h with
  | turned hturn => exact hturn.numbered hd
  | received signal hk => exact hd.publish hk signal
  | opened _ _ _ hk =>
      refine ⟨hd.log, ?_, hd.retired⟩
      intro o ho
      rw [← Option.some.inj ho]
      exact hk
  | @closed o ho =>
      rw [closeStream_eq ho]
      refine ⟨hd.log.note (hd.current o ho), by simp, ?_⟩
      intro o₁ ho₁
      by_cases hbusy : o.isBusy
      · simp only [if_pos hbusy, List.mem_append, List.mem_singleton] at ho₁
        rcases ho₁ with hmem | rfl
        · exact hd.retired o₁ hmem
        · exact hd.current o ho
      · simp only [if_neg hbusy] at ho₁
        exact hd.retired o₁ ho₁

end Delivery

end QuadDaq

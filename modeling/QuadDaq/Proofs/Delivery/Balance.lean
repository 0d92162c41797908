import QuadDaq.Proofs.Delivery.Ledger

/-!
# Every batch has one fate

**What is handed in is delivered, lost, too late, waiting, or inside a call**, and
nothing is in two of these places. The law is stated for every way of weighing batches
(`Balanced`), so it counts batches and rows alike. The lifetime counters are the
weights of the corresponding entries of the ledger (`Counted`).
-/

namespace QuadDaq

open Relation (ReflTransGen)

/-! ### Where batches are -/

/-- The batches that wait in an outlet. -/
def Outlet.waiting (o : Outlet) : List (Nat × Batch) := o.batches.items.map (Prod.mk o.stream)

/-- The batch that an outlet is inside a call with. -/
def Outlet.calling (o : Outlet) : List (Nat × Batch) := (o.dataCall.map (Prod.mk o.stream)).toList

namespace Delivery

/-- The batches that wait to be delivered. -/
def waiting (d : Delivery) : List (Nat × Batch) := d.current.toList.flatMap Outlet.waiting

/-- The batches inside a call, those of stopped streams included. -/
def calling (d : Delivery) : List (Nat × Batch) :=
  d.current.toList.flatMap Outlet.calling ++ d.retired.flatMap Outlet.calling

/-- All batches that were handed in. -/
def receivedBatches (d : Delivery) : List (Nat × Batch) :=
  d.received.filterMap fun p => p.2.batch?.map (Prod.mk p.1)

/-- The current outlet is open; retired ones are closed and empty. -/
structure Tidy (d : Delivery) : Prop where
  current : ∀ o, d.current = some o → o.closed = false
  retired : ∀ o ∈ d.retired, o.closed = true ∧ o.batches.items = []

/-- However batches are weighed, those handed in weigh as much as those of all fates. -/
def Balanced (d : Delivery) : Prop :=
  ∀ w, weigh w d.receivedBatches =
    weigh w d.completed + weigh w d.lost + weigh w d.late + weigh w d.waiting + weigh w d.calling

end Delivery

/-- The counters say how much was delivered and lost. -/
structure Consumers.Counted (c : Consumers) : Prop where
  rowsDelivered : c.counters.rowsDelivered = weigh Batch.size c.completed
  batchesDelivered : c.counters.batchesDelivered = c.completed.length
  droppedBatches : c.counters.droppedBatches = c.lost.length

theorem Consumers.SameLedger.counted {c c' : Consumers} (h : SameLedger c c') (hc : c.Counted) :
    c'.Counted := by
  refine ⟨?_, ?_, ?_⟩
  · rw [h.rowsDelivered, h.completed, hc.rowsDelivered]
  · rw [h.batchesDelivered, h.completed, hc.batchesDelivered]
  · rw [h.droppedBatches, h.lost, hc.droppedBatches]

/-- No counter of these is greater than in the second counters. -/
structure DeliveryCounters.GrowTo (n m : DeliveryCounters) : Prop where
  rowsDelivered : n.rowsDelivered ≤ m.rowsDelivered
  batchesDelivered : n.batchesDelivered ≤ m.batchesDelivered
  droppedBatches : n.droppedBatches ≤ m.droppedBatches
  droppedEvents : n.droppedEvents ≤ m.droppedEvents

theorem DeliveryCounters.GrowTo.refl (n : DeliveryCounters) : n.GrowTo n :=
  ⟨Nat.le_refl _, Nat.le_refl _, Nat.le_refl _, Nat.le_refl _⟩

theorem DeliveryCounters.GrowTo.trans {n₁ n₂ n₃ : DeliveryCounters} (h : n₁.GrowTo n₂)
    (h' : n₂.GrowTo n₃) : n₁.GrowTo n₃ :=
  ⟨Nat.le_trans h.rowsDelivered h'.rowsDelivered,
    Nat.le_trans h.batchesDelivered h'.batchesDelivered,
    Nat.le_trans h.droppedBatches h'.droppedBatches, Nat.le_trans h.droppedEvents h'.droppedEvents⟩

theorem Consumers.SameLedger.counters_grow {c c' : Consumers} (h : SameLedger c c') :
    c.counters.GrowTo c'.counters :=
  ⟨Nat.le_of_eq h.rowsDelivered.symm, Nat.le_of_eq h.batchesDelivered.symm,
    Nat.le_of_eq h.droppedBatches.symm, h.droppedEvents⟩

/-! ### Workers -/

theorem Work.closed_eq {c c' : Consumers} {o o' : Outlet} (h : Work (c, o) (c', o')) :
    o'.closed = o.closed ∧ o'.stream = o.stream := by
  rcases h.data_cases with ⟨b, rest, -, -, -, -, rfl⟩ | ⟨b, -, -, rfl⟩ | ⟨-, hsame⟩
  · exact ⟨rfl, rfl⟩
  · exact ⟨rfl, rfl⟩
  · exact ⟨hsame.closed, hsame.stream⟩

theorem works_closed_eq {p q : Consumers × Outlet} (h : ReflTransGen Work p q) :
    q.2.closed = p.2.closed ∧ q.2.stream = p.2.stream := by
  induction h with
  | refl => exact ⟨rfl, rfl⟩
  | tail _ hwork ih => exact ⟨hwork.closed_eq.1.trans ih.1, hwork.closed_eq.2.trans ih.2⟩

theorem Work.capacity_eq {c c' : Consumers} {o o' : Outlet} (h : Work (c, o) (c', o')) :
    o'.batches.capacity = o.batches.capacity := by
  rcases h.data_cases with ⟨b, rest, -, -, -, -, rfl⟩ | ⟨b, -, -, rfl⟩ | ⟨-, hsame⟩
  · rfl
  · rfl
  · rw [hsame.batches]

/-- A worker takes up nothing from an empty outlet. -/
theorem Work.items_eq_nil {c c' : Consumers} {o o' : Outlet} (h : Work (c, o) (c', o'))
    (hempty : o.batches.items = []) : o'.batches.items = [] := by
  rcases h.data_cases with ⟨b, rest, -, -, hitems, -, rfl⟩ | ⟨b, -, -, rfl⟩ | ⟨-, hsame⟩
  · simp [hempty] at hitems
  · exact hempty
  · rw [hsame.batches, hempty]

/-- A worker neither makes batches nor loses any. -/
theorem Work.balance {c c' : Consumers} {o o' : Outlet} (h : Work (c, o) (c', o'))
    (w : Batch → Nat) :
    c'.received = c.received ∧ c'.lost = c.lost ∧ c'.late = c.late ∧
      weigh w c'.completed + weigh w o'.waiting + weigh w o'.calling =
        weigh w c.completed + weigh w o.waiting + weigh w o.calling := by
  rcases h.data_cases with ⟨b, rest, -, hfree, hitems, rfl, rfl⟩ | ⟨b, hcall, rfl, rfl⟩ |
    ⟨hledger, hsame⟩
  · refine ⟨by simp [DeliveryEvent.received?], by simp [DeliveryEvent.lost?],
      by simp [DeliveryEvent.late], ?_⟩
    simp [Outlet.waiting, Outlet.calling, DeliveryEvent.done?, hfree, hitems]
    omega
  · refine ⟨by simp, by simp, by simp, ?_⟩
    simp [Outlet.waiting, Outlet.calling, hcall]
    omega
  · refine ⟨hledger.received, hledger.lost, hledger.late, ?_⟩
    rw [hledger.completed, Outlet.waiting, Outlet.calling, hsame.batches, hsame.stream,
      hsame.dataCall]
    rfl

/-- A worker counts what it does. -/
theorem Work.counted {c c' : Consumers} {o o' : Outlet} (h : Work (c, o) (c', o'))
    (hc : c.Counted) : c'.Counted := by
  rcases h.data_cases with ⟨b, rest, -, -, -, rfl, -⟩ | ⟨b, -, rfl, -⟩ | ⟨hledger, -⟩
  · refine ⟨?_, ?_, ?_⟩
    · simp [hc.rowsDelivered, DeliveryEvent.done?]
    · simp [hc.batchesDelivered, DeliveryEvent.done?]
    · simp [hc.droppedBatches, DeliveryEvent.lost?]
  · refine ⟨?_, ?_, ?_⟩
    · simp [hc.rowsDelivered]
    · simp [hc.batchesDelivered]
    · simp [hc.droppedBatches]
  · exact hledger.counted hc

theorem Work.counters_grow {c c' : Consumers} {o o' : Outlet} (h : Work (c, o) (c', o')) :
    c.counters.GrowTo c'.counters := by
  rcases h.data_cases with ⟨b, rest, -, -, -, rfl, -⟩ | ⟨b, -, rfl, -⟩ | ⟨hledger, -⟩
  · exact .refl _
  · exact ⟨Nat.le_add_right _ _, Nat.le_succ _, Nat.le_refl _, Nat.le_refl _⟩
  · exact hledger.counters_grow

/-! ### The delivery side -/

namespace Delivery

theorem calling_eq_of_not_busy {o : Outlet} (h : o.isBusy = false) : o.calling = [] := by
  rw [Outlet.isBusy, Bool.or_eq_false_iff] at h
  rw [Outlet.calling, Option.isNone_iff_eq_none.mp (Option.isSome_eq_false_iff.mp h.1)]
  rfl

/-- The places of batches are those of the outlets, one by one. -/
theorem calling_eq_of_retired {d : Delivery} {before after : List Outlet} {o : Outlet}
    (h : d.retired = before ++ o :: after) (w : Batch → Nat) :
    weigh w d.calling = weigh w (d.current.toList.flatMap Outlet.calling) +
      weigh w (before.flatMap Outlet.calling) + weigh w o.calling +
      weigh w (after.flatMap Outlet.calling) := by
  rw [calling, h]
  simp
  omega

/-- Consumers and workers neither hand in a batch nor give one up. -/
theorem Turn.loses_nothing {d d' : Delivery} (h : Turn d d') :
    d'.received = d.received ∧ d'.lost = d.lost ∧ d'.late = d.late := by
  cases h with
  | worked _ hwork =>
      obtain ⟨hreceived, hlost, hlate, -⟩ := hwork.balance fun _ => 0
      exact ⟨hreceived, hlost, hlate⟩
  | workedRetired _ hwork =>
      obtain ⟨hreceived, hlost, hlate, -⟩ := hwork.balance fun _ => 0
      exact ⟨hreceived, hlost, hlate⟩
  | letGo _ _ => exact ⟨rfl, rfl, rfl⟩
  | registered kind consumer =>
      have hledger := d.register_sameLedger kind consumer
      exact ⟨hledger.received, hledger.lost, hledger.late⟩
  | held kind on => exact ⟨rfl, rfl, rfl⟩

theorem Turn.current_stream {d d' : Delivery} (h : Turn d d') :
    d'.current.map Outlet.stream = d.current.map Outlet.stream := by
  cases h with
  | worked ho hwork => rw [ho, Option.map_some, Option.map_some, hwork.closed_eq.2]
  | workedRetired _ _ => rfl
  | letGo _ _ => rfl
  | registered kind consumer => rfl
  | held kind on => rfl

theorem closeStream_received (d : Delivery) : d.closeStream.received = d.received := by
  cases ho : d.current with
  | none => simp only [closeStream, ho]
  | some o =>
      rw [closeStream_eq ho]
      exact (Consumers.note_received _ _).trans (List.append_nil _)

theorem closeStream_current (d : Delivery) : d.closeStream.current = none := by
  cases ho : d.current with
  | none => simp only [closeStream, ho]
  | some o => rw [closeStream_eq ho]

theorem publishAll_received (k : Nat) (signals : List Signal) :
    ∀ d : Delivery, (d.publishAll k signals).received = d.received ++ signals.map (Prod.mk k) := by
  induction signals with
  | nil => exact fun d => (List.append_nil _).symm
  | cons s rest ih =>
      intro d
      have hreceived : (d.publish k s).received = d.received ++ [(k, s)] := by
        rw [(d.publish_frame k s).calls.received, Consumers.note_received]
        rfl
      calc ((d.publish k s).publishAll k rest).received
          = (d.publish k s).received ++ rest.map (Prod.mk k) := ih _
        _ = d.received ++ (s :: rest).map (Prod.mk k) := by rw [hreceived, List.append_assoc]; rfl

theorem publish_current_stream (d : Delivery) (k : Nat) (signal : Signal) :
    (d.publish k signal).current.map Outlet.stream = d.current.map Outlet.stream := by
  unfold publish
  cases ho : d.current with
  | none => rfl
  | some o =>
      by_cases hk : o.stream = k
      · simp only [if_pos hk, Option.map_some, o.publish_stream]
      · simp only [if_neg hk, Option.map_some]

theorem publishAll_current_stream (k : Nat) (signals : List Signal) :
    ∀ d : Delivery,
      (d.publishAll k signals).current.map Outlet.stream = d.current.map Outlet.stream := by
  induction signals with
  | nil => exact fun d => rfl
  | cons s rest ih => exact fun d => (ih (d.publish k s)).trans (publish_current_stream d k s)

theorem Turn.tidy {d d' : Delivery} (h : Turn d d') (ht : d.Tidy) : d'.Tidy := by
  cases h with
  | worked ho hwork =>
      refine ⟨?_, ht.retired⟩
      intro o' ho'
      rw [← Option.some.inj ho', hwork.closed_eq.1]
      exact ht.current _ ho
  | @workedRetired before after o o' c' hr hwork =>
      refine ⟨ht.current, forall_mem_replaced (hr ▸ ht.retired) ?_⟩
      rintro ⟨hclosed, hempty⟩
      exact ⟨hwork.closed_eq.1.trans hclosed, hwork.items_eq_nil hempty⟩
  | letGo hr _ => exact ⟨ht.current, forall_mem_removed (hr ▸ ht.retired)⟩
  | registered kind consumer => exact ⟨ht.current, ht.retired⟩
  | held kind on => exact ⟨ht.current, ht.retired⟩

theorem Change.tidy {n : Nat} {d d' : Delivery} (h : Change n d d') (ht : d.Tidy) : d'.Tidy := by
  cases h with
  | turned hturn => exact hturn.tidy ht
  | @received k signal _ =>
      refine ⟨?_, (d.publish_frame k signal).retired ▸ ht.retired⟩
      intro o' ho'
      obtain ⟨o, ho, hsame⟩ := (d.publish_fate k signal).current ho'
      exact hsame.closed.trans (ht.current o ho)
  | opened _ _ _ _ =>
      refine ⟨?_, ht.retired⟩
      intro o ho
      rw [← Option.some.inj ho]
      rfl
  | @closed o ho =>
      rw [closeStream_eq ho]
      refine ⟨by simp, ?_⟩
      intro o₁ ho₁
      by_cases hbusy : o.isBusy
      · simp only [if_pos hbusy, List.mem_append, List.mem_singleton] at ho₁
        rcases ho₁ with hmem | rfl
        · exact ht.retired o₁ hmem
        · exact ⟨rfl, o.batches.clear_items⟩
      · simp only [if_neg hbusy] at ho₁
        exact ht.retired o₁ ho₁

/-- A publication adds to the waiting batches what it does not lose. -/
theorem PublishFate.balance {k : Nat} {signal : Signal} {d d' : Delivery}
    (h : PublishFate k signal d d') (hretired : d'.retired = d.retired) (w : Batch → Nat) :
    weigh w d'.lost + weigh w d'.late + weigh w d'.waiting + weigh w d'.calling =
      weigh w d.lost + weigh w d.late + weigh w d.waiting + weigh w d.calling +
        weigh w (signal.batch?.map (Prod.mk k)).toList := by
  cases h with
  | other hnone hcurrent hlost hlate _ =>
      rw [hlost, hlate, hnone]
      rcases hcurrent with hsame | ⟨o, o', ho, ho', hsame⟩
      · simp [waiting, calling, hsame, hretired]
      · simp [waiting, calling, ho, ho', hretired, Outlet.waiting, Outlet.calling, hsame.stream,
          hsame.batches, hsame.dataCall]
  | late _ hsame hlost hlate _ =>
      rw [hlost, hlate]
      simp [waiting, calling, hsame, hretired, Signal.batch?]
      omega
  | queued ho hk ho' hsame _ hitems hlost hlate _ =>
      rw [hlost, hlate]
      simp [waiting, calling, ho, ho', hretired, Outlet.waiting, Outlet.calling, hsame.stream,
        hsame.dataCall, hitems, Signal.batch?, hk]
      omega
  | evicted ho hk hold _ ho' hsame _ hitems hlost hlate _ =>
      rw [hlost, hlate]
      simp [waiting, calling, ho, ho', hretired, Outlet.waiting, Outlet.calling, hsame.stream,
        hsame.dataCall, hitems, hold, Signal.batch?, hk]
      omega

/-- A publication hands in the batch that the signal is. -/
theorem publish_receivedBatches (d : Delivery) (k : Nat) (signal : Signal) :
    (d.publish k signal).receivedBatches =
      d.receivedBatches ++ (signal.batch?.map (Prod.mk k)).toList := by
  rw [receivedBatches, (d.publish_frame k signal).calls.received, Consumers.note_received]
  cases hs : signal.batch? <;> simp [receivedBatches, DeliveryEvent.received?, hs]

theorem Turn.balanced {d d' : Delivery} (h : Turn d d') (ht : d.Tidy) (hb : d.Balanced) :
    d'.Balanced := by
  intro w
  have hw := hb w
  cases h with
  | worked ho hwork =>
      obtain ⟨hreceived, hlost, hlate, hsum⟩ := hwork.balance w
      simp only [receivedBatches, waiting, calling, ho, Option.toList_some, List.flatMap_singleton,
        weigh_append, hreceived, hlost, hlate] at hw ⊢
      omega
  | workedRetired hr hwork =>
      obtain ⟨hreceived, hlost, hlate, hsum⟩ := hwork.balance w
      have hempty := (ht.retired _ (by rw [hr]; exact List.mem_append_right _ List.mem_cons_self)).2
      simp only [Outlet.waiting, hempty, hwork.items_eq_nil hempty, List.map_nil] at hsum
      rw [calling_eq_of_retired hr] at hw
      rw [calling_eq_of_retired rfl]
      simp only [receivedBatches, waiting, hreceived, hlost, hlate, weigh_nil] at hw hsum ⊢
      omega
  | letGo hr hbusy =>
      have hcalling := calling_eq_of_not_busy hbusy
      rw [calling_eq_of_retired hr, hcalling] at hw
      simp only [receivedBatches, waiting, calling, List.flatMap_append, weigh_append,
        weigh_nil] at hw ⊢
      omega
  | registered kind consumer =>
      have hledger : Consumers.SameLedger d.toConsumers (d.register kind consumer).toConsumers :=
        d.register_sameLedger kind consumer
      simp only [receivedBatches, hledger.received, hledger.completed, hledger.lost, hledger.late]
      exact hw
  | held kind on => exact hw

/-- Every change keeps the balance. -/
theorem Change.balanced {n : Nat} {d d' : Delivery} (h : Change n d d') (ht : d.Tidy) (hb : d.Balanced) :
    d'.Balanced := by
  intro w
  have hw := hb w
  cases h with
  | turned hturn => exact hturn.balanced ht hb w
  | @received k signal _ =>
      have hframe := d.publish_frame k signal
      have hfate := (d.publish_fate k signal).balance hframe.retired w
      have hcompleted : (d.publish k signal).completed = d.completed := by
        rw [hframe.calls.completed, Consumers.note_completed]
        exact List.append_nil _
      rw [publish_receivedBatches, hcompleted, weigh_append]
      omega
  | opened hnone _ _ _ =>
      simp only [waiting, calling, hnone] at hw
      exact hw
  | @closed o ho =>
      rw [closeStream_eq ho]
      simp only [receivedBatches, waiting, calling, ho, Consumers.note_received,
        Consumers.note_completed, Consumers.note_lost, Consumers.note_late] at hw ⊢
      have hwaiting : DeliveryEvent.late (.discarded o.stream o.batches.items o.transitions.items) =
          o.waiting := rfl
      -- What waited is late from now on; a call in progress goes on in a retired outlet.
      by_cases hbusy : o.isBusy
      · have hcall : o.close.1.calling = o.calling := rfl
        simp [hwaiting, hcall, hbusy, DeliveryEvent.received?, DeliveryEvent.done?,
          DeliveryEvent.lost?] at hw ⊢
        omega
      · have hcall := calling_eq_of_not_busy (by simpa using hbusy)
        simp [hwaiting, hcall, hbusy, DeliveryEvent.received?, DeliveryEvent.done?,
          DeliveryEvent.lost?] at hw ⊢
        omega

/-! ### Counters -/

theorem Turn.counted {d d' : Delivery} (h : Turn d d') (hc : d.toConsumers.Counted) :
    d'.toConsumers.Counted := by
  cases h with
  | worked _ hwork => exact hwork.counted hc
  | workedRetired _ hwork => exact hwork.counted hc
  | letGo _ _ => exact hc
  | registered kind consumer => exact (d.register_sameLedger kind consumer).counted hc
  | held kind on => exact (Consumers.setHold_sameLedger _ _ _).counted hc

/-- Every change is counted. -/
theorem Change.counted {n : Nat} {d d' : Delivery} (h : Change n d d') (hc : d.toConsumers.Counted) :
    d'.toConsumers.Counted := by
  cases h with
  | turned hturn => exact hturn.counted hc
  | @received k signal _ =>
      have hcalls := (d.publish_frame k signal).calls
      have hcompleted : (d.publish k signal).completed = d.completed := by
        rw [hcalls.completed, Consumers.note_completed]
        exact List.append_nil _
      refine ⟨?_, ?_, ?_⟩
      · rw [hcalls.rowsDelivered, hcompleted, Consumers.note_counters, hc.rowsDelivered]
      · rw [hcalls.batchesDelivered, hcompleted, Consumers.note_counters, hc.batchesDelivered]
      · cases d.publish_fate k signal with
        | other _ _ hlost _ hdropped => rw [hdropped, hlost, hc.droppedBatches]
        | late _ _ hlost _ hdropped => rw [hdropped, hlost, hc.droppedBatches]
        | queued _ _ _ _ _ _ hlost _ hdropped => rw [hdropped, hlost, hc.droppedBatches]
        | evicted _ _ _ _ _ _ _ _ hlost _ hdropped =>
            rw [hdropped, hlost, hc.droppedBatches, List.length_append, List.length_singleton]
  | opened _ _ _ _ => exact hc
  | closed ho =>
      rw [closeStream_eq ho]
      refine ⟨?_, ?_, ?_⟩
      · simp [hc.rowsDelivered, DeliveryEvent.done?]
      · simp [hc.batchesDelivered, DeliveryEvent.done?]
      · simp [hc.droppedBatches, DeliveryEvent.lost?]

theorem Turn.counters_grow {d d' : Delivery} (h : Turn d d') :
    d.counters.GrowTo d'.counters := by
  cases h with
  | worked _ hwork => exact hwork.counters_grow
  | workedRetired _ hwork => exact hwork.counters_grow
  | letGo _ _ => exact .refl _
  | registered kind consumer => exact (d.register_sameLedger kind consumer).counters_grow
  | held kind on => exact .refl _

/-- No change takes a count back. -/
theorem Change.counters_grow {n : Nat} {d d' : Delivery} (h : Change n d d') :
    d.counters.GrowTo d'.counters := by
  cases h with
  | turned hturn => exact hturn.counters_grow
  | @received k signal _ =>
      have hcalls := (d.publish_frame k signal).calls
      refine ⟨Nat.le_of_eq hcalls.rowsDelivered.symm, Nat.le_of_eq hcalls.batchesDelivered.symm,
        ?_, hcalls.droppedEvents⟩
      cases d.publish_fate k signal with
      | other _ _ _ _ hdropped => exact Nat.le_of_eq hdropped.symm
      | late _ _ _ _ hdropped => exact Nat.le_of_eq hdropped.symm
      | queued _ _ _ _ _ _ _ _ hdropped => exact Nat.le_of_eq hdropped.symm
      | evicted _ _ _ _ _ _ _ _ _ _ hdropped =>
          rw [hdropped]
          exact Nat.le_succ _
  | opened _ _ _ _ => exact .refl _
  | closed ho =>
      rw [closeStream_eq ho]
      exact .refl _

end Delivery

end QuadDaq

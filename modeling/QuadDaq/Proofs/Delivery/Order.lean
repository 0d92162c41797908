import QuadDaq.Proofs.Delivery.Balance

/-!
# Batches of one stream are settled in order

**The batches of a stream meet their fates in the order in which they were published**:
first those that were delivered or lost, then those that wait, then those that came too
late. Between two deliveries there are exactly as many lost batches as the later
delivery reports (`Delivers`).

`Fated` is the history of the settled batches, oldest first, together with the count that
the next delivery will report; `Accounts` ties it to the queue of the outlet.
-/

namespace QuadDaq

/-! ### Histories of settled batches -/

/-- These batches were settled in this order, these of them delivered and these lost, and
so many lost since the latest delivery. -/
inductive Fated : List Batch → List (Batch × Nat) → List Batch → Nat → Prop
  | nil : Fated [] [] [] 0
  /-- The next batch is lost. -/
  | lost {settled lost : List Batch} {delivered : List (Batch × Nat)} {n : Nat} {b : Batch} :
      Fated settled delivered lost n →
      Fated (settled ++ [b]) delivered (lost ++ [b]) (n + 1)
  /-- The next batch is delivered, and reports the lost ones. -/
  | delivered {settled lost : List Batch} {delivered : List (Batch × Nat)} {n : Nat} {b : Batch} :
      Fated settled delivered lost n →
      Fated (settled ++ [b]) (delivered ++ [(b, n)]) lost 0

/-- Each delivered batch comes so many places after the previous one as it reports, and
`rest` is what follows the last one. -/
def Delivers : List Batch → List (Batch × Nat) → List Batch → Prop
  | published, [], rest => published = rest
  | published, (b, n) :: delivered, rest =>
    ∃ after, published.drop n = b :: after ∧ Delivers after delivered rest

theorem Delivers.append {published rest : List Batch} {delivered : List (Batch × Nat)}
    (h : Delivers published delivered rest) (more : List Batch) :
    Delivers (published ++ more) delivered (rest ++ more) := by
  induction delivered generalizing published with
  | nil => exact congrArg (· ++ more) h
  | cons p delivered ih =>
      obtain ⟨after, hdrop, hafter⟩ := h
      refine ⟨after ++ more, ?_, ih hafter⟩
      have hle : p.2 ≤ published.length := by
        have hne : published.drop p.2 ≠ [] := by simp [hdrop]
        exact Nat.le_of_lt (Nat.lt_of_not_le fun hge => hne (List.drop_eq_nil_of_le hge))
      rw [List.drop_append_of_le_length hle, hdrop, List.cons_append]

theorem Delivers.snoc {published rest after : List Batch} {delivered : List (Batch × Nat)}
    {b : Batch} {n : Nat} (h : Delivers published delivered rest) (hrest : rest.drop n = b :: after) :
    Delivers published (delivered ++ [(b, n)]) after := by
  induction delivered generalizing published with
  | nil =>
      obtain rfl : published = rest := h
      exact ⟨after, hrest, rfl⟩
  | cons p delivered ih =>
      obtain ⟨later, hdrop, hlater⟩ := h
      exact ⟨later, hdrop, ih hlater⟩

/-- What follows the last delivered batch in a history are the batches lost since. -/
theorem Fated.delivers {settled lost : List Batch} {delivered : List (Batch × Nat)} {n : Nat}
    (h : Fated settled delivered lost n) : ∃ rest, Delivers settled delivered rest ∧ rest.length = n := by
  induction h with
  | nil => exact ⟨[], rfl, rfl⟩
  | @lost _ _ _ _ b _ ih =>
      obtain ⟨rest, hdelivers, hlength⟩ := ih
      exact ⟨rest ++ [b], hdelivers.append [b], by rw [List.length_append, hlength]; rfl⟩
  | @delivered _ _ _ n b _ ih =>
      obtain ⟨rest, hdelivers, hlength⟩ := ih
      refine ⟨[], (hdelivers.append [b]).snoc ?_, rfl⟩
      rw [← hlength, List.drop_left]

theorem Fated.of_nil {lost : List Batch} {delivered : List (Batch × Nat)} {n : Nat}
    (h : Fated [] delivered lost n) : delivered = [] ∧ lost = [] ∧ n = 0 := by
  generalize hsettled : ([] : List Batch) = settled at h
  cases h with
  | nil => exact ⟨rfl, rfl, rfl⟩
  | lost _ => simp at hsettled
  | delivered _ => simp at hsettled

/-- As long as nothing is lost, everything is delivered and nothing is reported. -/
theorem Fated.of_lost_eq_nil {settled : List Batch} {delivered : List (Batch × Nat)} {n : Nat}
    (h : Fated settled delivered [] n) : n = 0 ∧ delivered = settled.map (·, 0) := by
  generalize hlost : ([] : List Batch) = lost at h
  induction h with
  | nil => exact ⟨rfl, rfl⟩
  | lost _ _ => simp at hlost
  | delivered _ ih =>
      obtain ⟨rfl, rfl⟩ := ih hlost
      exact ⟨rfl, by rw [List.map_append]; rfl⟩

/-- Delivered batches are a subsequence of the published ones. -/
theorem Delivers.sublist {published rest : List Batch} {delivered : List (Batch × Nat)}
    (h : Delivers published delivered rest) : (delivered.map Prod.fst).Sublist published := by
  induction delivered generalizing published with
  | nil => exact List.nil_sublist _
  | cons p delivered ih =>
      obtain ⟨after, hdrop, hafter⟩ := h
      have hcons : (p.1 :: after).Sublist published := hdrop ▸ List.drop_sublist p.2 published
      exact ((ih hafter).cons_cons p.1).trans hcons

/-- Of two consecutive deliveries the second comes right after the batches it reports as
dropped. -/
theorem Delivers.consecutive {published rest : List Batch} {before after : List (Batch × Nat)}
    {x y : Batch × Nat} (h : Delivers published (before ++ x :: y :: after) rest) :
    ∃ i, published[i]? = some x.1 ∧ published[i + 1 + y.2]? = some y.1 := by
  induction before generalizing published with
  | nil =>
      obtain ⟨later, hx, later', hy, -⟩ := h
      refine ⟨x.2, ?_, ?_⟩
      · rw [← List.head?_drop, hx, List.head?_cons]
      · rw [Nat.add_assoc, ← List.getElem?_drop, hx, Nat.add_comm 1, List.getElem?_cons_succ,
          ← List.head?_drop, hy, List.head?_cons]
  | cons p before ih =>
      obtain ⟨later, hdrop, hlater⟩ := h
      obtain ⟨i, hx, hy⟩ := ih hlater
      refine ⟨p.2 + 1 + i, ?_, ?_⟩
      · rw [Nat.add_assoc, ← List.getElem?_drop, hdrop, Nat.add_comm 1, List.getElem?_cons_succ, hx]
      · rw [show p.2 + 1 + i + 1 + y.2 = p.2 + (i + 1 + y.2 + 1) by omega, ← List.getElem?_drop, hdrop,
          List.getElem?_cons_succ, hy]

/-! ### The batches of one stream -/

namespace Delivery

/-- The batches that a stream handed in. -/
def receivedOf (d : Delivery) (k : Nat) : List Batch := ofStream k d.receivedBatches

/-- The batches of a stream that the data consumer was called with, each with the number
of dropped ones. -/
def deliveredOf (d : Delivery) (k : Nat) : List (Batch × Nat) := ofStream k d.delivered

/-- The batches of a stream that a full queue gave up. -/
def lostOf (d : Delivery) (k : Nat) : List Batch := ofStream k d.lost

/-- The batches of a stream that came too late. -/
def lateOf (d : Delivery) (k : Nat) : List Batch := ofStream k d.late

/-- The batches of a stream that wait. -/
def waitingOf (d : Delivery) (k : Nat) : List Batch :=
  match d.current with
  | some o => if o.stream = k then o.batches.items else []
  | none => []

/-- The batches of a stream are accounted for in order. While its outlet is current none
has come too late, and the outlet counts the lost ones. -/
structure Accounts (k : Nat) (d : Delivery) : Prop where
  fated : ∃ settled n, Fated settled (d.deliveredOf k) (d.lostOf k) n ∧
    d.receivedOf k = settled ++ d.waitingOf k ++ d.lateOf k ∧
    ∀ o, d.current = some o → o.stream = k → o.dropped = n ∧ d.lateOf k = []

/-- A stream with a new number has handed in nothing. -/
theorem receivedOf_eq_nil {d : Delivery} {m k : Nat} (hd : d.Numbered m) (h : m < k) :
    d.receivedOf k = [] := by
  apply ofStream_eq_nil
  rintro ⟨j, b⟩ hp rfl
  obtain ⟨⟨i, s⟩, hs, heq⟩ := List.mem_filterMap.mp hp
  obtain ⟨event, hevent, hsignal⟩ := List.mem_filterMap.mp hs
  have hle := hd.log event hevent
  cases event <;> simp [DeliveryEvent.received?] at hsignal
  simp only [DeliveryEvent.stream] at hle
  cases s <;> simp [Signal.batch?] at heq
  omega

theorem Accounts.of_eq {k : Nat} {d d' : Delivery} (h : Accounts k d)
    (hreceived : d'.receivedOf k = d.receivedOf k) (hdelivered : d'.deliveredOf k = d.deliveredOf k)
    (hlost : d'.lostOf k = d.lostOf k) (hlate : d'.lateOf k = d.lateOf k) (hwaiting : d'.waitingOf k = d.waitingOf k)
    (hcurrent : ∀ o', d'.current = some o' → o'.stream = k →
      ∃ o, d.current = some o ∧ o.stream = k ∧ o'.dropped = o.dropped) :
    Accounts k d' := by
  obtain ⟨settled, n, hfated, heq, hdropped⟩ := h.fated
  refine ⟨settled, n, ?_, by rw [hreceived, hwaiting, hlate, heq], ?_⟩
  · rw [hdelivered, hlost]
    exact hfated
  · intro o' ho' hk
    obtain ⟨o, ho, hok, hsame⟩ := hcurrent o' ho' hk
    rw [hsame, hlate]
    exact hdropped o ho hok

theorem Accounts.of_sameFates {k : Nat} {d d' : Delivery} (h : Accounts k d)
    (hfates : Consumers.SameFates d.toConsumers d'.toConsumers)
    (hwaiting : d'.waitingOf k = d.waitingOf k)
    (hcurrent : ∀ o', d'.current = some o' → o'.stream = k →
      ∃ o, d.current = some o ∧ o.stream = k ∧ o'.dropped = o.dropped) :
    Accounts k d' := by
  refine h.of_eq ?_ ?_ ?_ ?_ hwaiting hcurrent
  · simp only [receivedOf, receivedBatches, hfates.received]
  · simp only [deliveredOf, hfates.delivered]
  · simp only [lostOf, hfates.lost]
  · simp only [lateOf, hfates.late]

/-- A signal of another stream, or one that is no batch, is no matter of the account. -/
theorem publish_receivedOf (d : Delivery) (j k : Nat) (signal : Signal) :
    (d.publish j signal).receivedOf k =
      d.receivedOf k ++ if j = k then signal.batch?.toList else [] := by
  rw [receivedOf, publish_receivedBatches, ofStream_append, ← receivedOf]
  cases signal.batch? <;> simp

theorem publish_deliveredOf (d : Delivery) (j k : Nat) (signal : Signal) :
    (d.publish j signal).deliveredOf k = d.deliveredOf k := by
  rw [deliveredOf, (d.publish_frame j signal).calls.delivered, Consumers.note_delivered]
  exact congrArg (ofStream k) (List.append_nil _)

theorem waitingOf_of_current {d : Delivery} {o : Outlet} (ho : d.current = some o) (k : Nat) :
    d.waitingOf k = if o.stream = k then o.batches.items else [] := by
  simp only [waitingOf, ho]

theorem waitingOf_eq_nil {d : Delivery} {k : Nat}
    (h : ∀ o, d.current = some o → o.stream ≠ k) : d.waitingOf k = [] := by
  unfold waitingOf
  split
  · next o ho => rw [if_neg (h o ho)]
  · rfl

theorem lateOf_append {d d' : Delivery} {j : Nat} (batches : List Batch)
    (h : d'.late = d.late ++ batches.map (Prod.mk j)) (k : Nat) :
    d'.lateOf k = d.lateOf k ++ if j = k then batches else [] := by
  rw [lateOf, h, ofStream_append, ofStream_map_mk, ← lateOf]

/-- A publication loses nothing, or the batch that has waited longest. -/
theorem publish_evicts (d : Delivery) (k : Nat) (signal : Signal) :
    (d.publish k signal).lostOf k = d.lostOf k ∨
      ∃ b oldest rest, signal = .batch b ∧ d.waitingOf k = oldest :: rest ∧
        (d.publish k signal).lostOf k = d.lostOf k ++ [oldest] ∧
        (d.publish k signal).waitingOf k = rest ++ [b] := by
  have hfate := d.publish_fate k signal
  generalize d.publish k signal = d' at hfate ⊢
  cases hfate with
  | other _ _ hlost _ _ => exact .inl (congrArg (ofStream k) hlost)
  | late _ _ hlost _ _ => exact .inl (congrArg (ofStream k) hlost)
  | queued _ _ _ _ _ _ hlost _ _ => exact .inl (congrArg (ofStream k) hlost)
  | @evicted b oldest rest _ _ o o' ho hk hold _ ho' hsame _ hitems hlost _ _ =>
      refine .inr ⟨b, oldest, rest, rfl, ?_, ?_, ?_⟩
      · rw [waitingOf_of_current ho, if_pos hk, hold]
      · rw [lostOf, hlost, ofStream_append, ofStream_singleton, if_pos rfl, ← lostOf]
      · rw [waitingOf_of_current ho', if_pos (hsame.stream.trans hk), hitems]

/-- A batch that finds no outlet comes too late. -/
theorem Accounts.publish_late {k : Nat} {d d' : Delivery} (h : Accounts k d) {b : Batch}
    (hother : ∀ o, d.current = some o → o.stream ≠ k) (hcurrent : d'.current = d.current)
    (hreceived : d'.receivedOf k = d.receivedOf k ++ [b])
    (hdelivered : d'.deliveredOf k = d.deliveredOf k) (hlost : d'.lostOf k = d.lostOf k)
    (hlate : d'.lateOf k = d.lateOf k ++ [b]) : Accounts k d' := by
  obtain ⟨settled, n, hfated, heq, _⟩ := h.fated
  have hother' : ∀ o, d'.current = some o → o.stream ≠ k := hcurrent ▸ hother
  refine ⟨settled, n, ?_, ?_, fun o ho hk => absurd hk (hother' o ho)⟩
  · rw [hdelivered, hlost]
    exact hfated
  · rw [hreceived, hlate, heq, waitingOf_eq_nil hother, waitingOf_eq_nil hother', List.append_assoc]

/-- A batch that finds room waits behind the others. -/
theorem Accounts.publish_queued {k : Nat} {d d' : Delivery} (h : Accounts k d) {b : Batch}
    {o o' : Outlet} (ho : d.current = some o) (hk : o.stream = k) (ho' : d'.current = some o')
    (hk' : o'.stream = k) (hcount : o'.dropped = o.dropped)
    (hitems : o'.batches.items = o.batches.items ++ [b])
    (hreceived : d'.receivedOf k = d.receivedOf k ++ [b])
    (hdelivered : d'.deliveredOf k = d.deliveredOf k) (hlost : d'.lostOf k = d.lostOf k)
    (hlate : d'.lateOf k = d.lateOf k) : Accounts k d' := by
  obtain ⟨settled, n, hfated, heq, hdropped⟩ := h.fated
  obtain ⟨hn, hnone⟩ := hdropped o ho hk
  refine ⟨settled, n, ?_, ?_, ?_⟩
  · rw [hdelivered, hlost]
    exact hfated
  · rw [hreceived, heq, hlate, hnone, waitingOf_of_current ho, waitingOf_of_current ho', if_pos hk,
      if_pos hk', hitems, List.append_nil, List.append_nil, List.append_assoc]
  · intro o₁ ho₁ _
    obtain rfl : o' = o₁ := Option.some.inj (ho'.symm.trans ho₁)
    exact ⟨hcount.trans hn, hlate.trans hnone⟩

/-- A batch that displaces the oldest one waits behind the others, and the oldest one is
lost. -/
theorem Accounts.publish_evicted {k : Nat} {d d' : Delivery} (h : Accounts k d) {b oldest : Batch}
    {rest : List Batch} {o o' : Outlet} (ho : d.current = some o) (hk : o.stream = k)
    (hold : o.batches.items = oldest :: rest) (ho' : d'.current = some o') (hk' : o'.stream = k)
    (hcount : o'.dropped = o.dropped + 1) (hitems : o'.batches.items = rest ++ [b])
    (hreceived : d'.receivedOf k = d.receivedOf k ++ [b])
    (hdelivered : d'.deliveredOf k = d.deliveredOf k)
    (hlost : d'.lostOf k = d.lostOf k ++ [oldest]) (hlate : d'.lateOf k = d.lateOf k) :
    Accounts k d' := by
  obtain ⟨settled, n, hfated, heq, hdropped⟩ := h.fated
  obtain ⟨hn, hnone⟩ := hdropped o ho hk
  refine ⟨settled ++ [oldest], n + 1, ?_, ?_, ?_⟩
  · rw [hdelivered, hlost]
    exact hfated.lost
  · rw [hreceived, heq, hlate, hnone, waitingOf_of_current ho, waitingOf_of_current ho', if_pos hk,
      if_pos hk', hitems, hold, List.append_nil, List.append_nil]
    simp
  · intro o₁ ho₁ _
    obtain rfl : o' = o₁ := Option.some.inj (ho'.symm.trans ho₁)
    exact ⟨by rw [hcount, hn], hlate.trans hnone⟩

/-- What happens to the outlet of another stream is no matter of the account. -/
theorem Accounts.of_other {k : Nat} {d d' : Delivery} (h : Accounts k d)
    (hreceived : d'.receivedOf k = d.receivedOf k) (hdelivered : d'.deliveredOf k = d.deliveredOf k)
    (hlost : d'.lostOf k = d.lostOf k) (hlate : d'.lateOf k = d.lateOf k) (hother : ∀ o, d.current = some o → o.stream ≠ k)
    (hother' : ∀ o', d'.current = some o' → o'.stream ≠ k) : Accounts k d' := by
  refine h.of_eq hreceived hdelivered hlost hlate ?_ fun o' ho' hk => absurd hk (hother' o' ho')
  rw [waitingOf_eq_nil hother, waitingOf_eq_nil hother']

/-- A publication keeps the account. -/
theorem Accounts.publish {k : Nat} {d : Delivery} (h : Accounts k d) (j : Nat) (signal : Signal) :
    Accounts k (d.publish j signal) := by
  have hreceived := d.publish_receivedOf j k signal
  have hdelivered := d.publish_deliveredOf j k signal
  have hfate := d.publish_fate j signal
  generalize d.publish j signal = d' at hreceived hdelivered hfate ⊢
  cases hfate with
  | other hnone hcurrent hlost hlate _ =>
      have hlost' : d'.lostOf k = d.lostOf k := congrArg (ofStream k) hlost
      rw [hnone, Option.toList_none, ite_self, List.append_nil] at hreceived
      have hlate' : d'.lateOf k = d.lateOf k := congrArg (ofStream k) hlate
      rcases hcurrent with hsame | ⟨o, o', ho, ho', hsame⟩
      · refine h.of_eq hreceived hdelivered hlost' hlate' (by simp only [waitingOf, hsame]) ?_
        exact fun o ho hk => ⟨o, hsame ▸ ho, hk, rfl⟩
      · refine h.of_eq hreceived hdelivered hlost' hlate' ?_ ?_
        · rw [waitingOf_of_current ho, waitingOf_of_current ho', hsame.stream, hsame.batches]
        · intro o₁ ho₁ hk
          obtain rfl : o' = o₁ := Option.some.inj (ho'.symm.trans ho₁)
          exact ⟨o, ho, hsame.stream ▸ hk, hsame.dropped⟩
  | @late b _ _ hother hcurrent hlost hlate _ =>
      have hlost' : d'.lostOf k = d.lostOf k := congrArg (ofStream k) hlost
      have hlate' := lateOf_append [b] hlate k
      by_cases hj : j = k
      · subst hj
        simp only [if_true] at hreceived hlate'
        exact h.publish_late hother hcurrent hreceived hdelivered hlost' hlate'
      · simp only [if_neg hj, List.append_nil] at hreceived hlate'
        refine h.of_eq hreceived hdelivered hlost' hlate' (by simp only [waitingOf, hcurrent]) ?_
        exact fun o ho hk => ⟨o, hcurrent ▸ ho, hk, rfl⟩
  | queued ho hj ho' hsame hcount hitems hlost hlate _ =>
      have hlost' : d'.lostOf k = d.lostOf k := congrArg (ofStream k) hlost
      have hlate' : d'.lateOf k = d.lateOf k := congrArg (ofStream k) hlate
      have hj' := hsame.stream.trans hj
      by_cases hk : j = k
      · rw [if_pos hk] at hreceived
        exact h.publish_queued ho (hj.trans hk) ho' (hj'.trans hk) hcount hitems hreceived
          hdelivered hlost' hlate'
      · rw [if_neg hk, List.append_nil] at hreceived
        refine h.of_other hreceived hdelivered hlost' hlate' ?_ ?_
        · intro o₁ ho₁
          rwa [← Option.some.inj (ho.symm.trans ho₁), hj]
        · intro o₁ ho₁
          rwa [← Option.some.inj (ho'.symm.trans ho₁), hj']
  | @evicted b oldest _ _ _ _ _ ho hj hold _ ho' hsame hcount hitems hlost hlate _ =>
      have hlost' : d'.lostOf k = d.lostOf k ++ if j = k then [oldest] else [] := by
        rw [lostOf, hlost, ofStream_append, ofStream_singleton, ← lostOf]
      have hlate' : d'.lateOf k = d.lateOf k := congrArg (ofStream k) hlate
      have hj' := hsame.stream.trans hj
      by_cases hk : j = k
      · rw [if_pos hk] at hreceived hlost'
        exact h.publish_evicted ho (hj.trans hk) hold ho' (hj'.trans hk) hcount hitems hreceived
          hdelivered hlost' hlate'
      · rw [if_neg hk, List.append_nil] at hreceived hlost'
        refine h.of_other hreceived hdelivered hlost' hlate' ?_ ?_
        · intro o₁ ho₁
          rwa [← Option.some.inj (ho.symm.trans ho₁), hj]
        · intro o₁ ho₁
          rwa [← Option.some.inj (ho'.symm.trans ho₁), hj']

/-- A call that begins settles the oldest batch, and reports the lost ones with it. -/
theorem Accounts.began {k : Nat} {d : Delivery} (h : Accounts k d) {o : Outlet} {b : Batch}
    {rest : List Batch} (ho : d.current = some o) (hitems : o.batches.items = b :: rest) :
    Accounts k { d with
      toConsumers := d.note (.batch o.stream b o.dropped)
      current := some { o with batches := o.batches.pop.1, dropped := 0, dataCall := some b } } := by
  have hreceived : (d.note (.batch o.stream b o.dropped)).received = d.received :=
    (Consumers.note_received _ _).trans (List.append_nil _)
  have hlost : (d.note (.batch o.stream b o.dropped)).lost = d.lost :=
    (Consumers.note_lost _ _).trans (List.append_nil _)
  have hlate : (d.note (.batch o.stream b o.dropped)).late = d.late :=
    (Consumers.note_late _ _).trans (List.append_nil _)
  by_cases hk : o.stream = k
  · obtain ⟨settled, n, hfated, heq, hdropped⟩ := h.fated
    obtain ⟨rfl, hnone⟩ := hdropped o ho hk
    refine ⟨settled ++ [b], 0, ?_, ?_, ?_⟩
    · simp only [deliveredOf, lostOf, hlost, Consumers.note_delivered, ofStream_append]
      simp only [DeliveryEvent.called?, Option.toList_some, ofStream_singleton, if_pos hk]
      exact hfated.delivered
    · simp only [receivedOf, receivedBatches, lateOf, hreceived, hlate] at heq hnone ⊢
      rw [heq, hnone, waitingOf_of_current ho, waitingOf_of_current rfl, if_pos hk, if_pos hk,
        DropOldest.pop_items, hitems, List.tail_cons]
      simp
    · rintro o₁ ho₁ -
      rw [← Option.some.inj ho₁]
      exact ⟨rfl, (congrArg (ofStream k) hlate).trans hnone⟩
  · refine h.of_other ?_ ?_ (congrArg (ofStream k) hlost) (congrArg (ofStream k) hlate) ?_ ?_
    · simp only [receivedOf, receivedBatches, hreceived]
    · simp only [deliveredOf, Consumers.note_delivered, ofStream_append]
      simp only [DeliveryEvent.called?, Option.toList_some, ofStream_singleton, if_neg hk,
        List.append_nil]
    · intro o₁ ho₁
      rwa [← Option.some.inj (ho.symm.trans ho₁)]
    · intro o₁ ho₁
      rwa [← Option.some.inj ho₁]

/-- A step of a worker on the current outlet keeps the account. -/
theorem Accounts.worked {k : Nat} {d : Delivery} (h : Accounts k d) {o o' : Outlet}
    {c' : Consumers} (ho : d.current = some o) (hwork : Work (d.toConsumers, o) (c', o')) :
    Accounts k { d with toConsumers := c', current := some o' } := by
  have hstream : o'.stream = o.stream := hwork.closed_eq.2
  rcases hwork.data_cases with ⟨b, rest, -, -, hitems, rfl, rfl⟩ | ⟨b, -, rfl, rfl⟩ |
    ⟨hledger, hsame⟩
  · exact h.began ho hitems
  · refine h.of_sameFates (Consumers.batchDone_sameFates _ _ _) ?_ ?_
    · rw [waitingOf_of_current ho, waitingOf_of_current rfl]
    · rintro o₁ ho₁ hk
      rw [← Option.some.inj ho₁] at hk ⊢
      exact ⟨o, ho, hk, rfl⟩
  · refine h.of_sameFates hledger.sameFates ?_ ?_
    · rw [waitingOf_of_current ho, waitingOf_of_current rfl, hstream, hsame.batches]
    · rintro o₁ ho₁ hk
      obtain rfl : o' = o₁ := Option.some.inj ho₁
      exact ⟨o, ho, hstream ▸ hk, hsame.dropped⟩

theorem Turn.accounts {d d' : Delivery} (h : Turn d d') (ht : d.Tidy) {k : Nat}
    (hd : Accounts k d) : Accounts k d' := by
  have hcurrent : ∀ o, d.current = some o → o.stream = k →
      ∃ o', d.current = some o' ∧ o'.stream = k ∧ o.dropped = o'.dropped :=
    fun o ho hk => ⟨o, ho, hk, rfl⟩
  cases h with
  | worked ho hwork => exact hd.worked ho hwork
  | @workedRetired before after o o' c' hr hwork =>
      have hclosed : o.closed = true :=
        (ht.retired o (by rw [hr]; exact List.mem_append_right _ List.mem_cons_self)).1
      rcases hwork.data_cases with ⟨b, rest, hopen, -⟩ | ⟨b, -, rfl, -⟩ | ⟨hledger, -⟩
      · -- A closed outlet begins no call.
        simp [hclosed] at hopen
      · exact hd.of_sameFates (Consumers.batchDone_sameFates _ _ _) rfl hcurrent
      · exact hd.of_sameFates hledger.sameFates rfl hcurrent
  | letGo _ _ => exact hd.of_eq rfl rfl rfl rfl rfl hcurrent
  | registered kind consumer =>
      exact hd.of_sameFates (d.register_sameLedger kind consumer).sameFates rfl hcurrent
  | held kind on => exact hd.of_eq rfl rfl rfl rfl rfl hcurrent

/-- A stream that opens has handed in nothing, so nothing of it is settled. -/
theorem Accounts.opened {k : Nat} {d : Delivery} (h : Accounts k d) {m j capacity : Nat}
    (hnone : d.current = none) (hm : d.Numbered m) (hlt : m < j) :
    Accounts k (d.openStream j capacity) := by
  by_cases hj : j = k
  · obtain ⟨settled, n, hfated, heq, _⟩ := h.fated
    rw [receivedOf_eq_nil hm (hj ▸ hlt)] at heq
    obtain ⟨hsettled, hlate⟩ := List.append_eq_nil_iff.mp heq.symm
    obtain ⟨rfl, -⟩ := List.append_eq_nil_iff.mp hsettled
    obtain ⟨-, -, rfl⟩ := hfated.of_nil
    refine ⟨[], 0, hfated, ?_, ?_⟩
    · rw [waitingOf_of_current rfl, Outlet.opened, DropOldest.ofCapacity_items, ite_self]
      exact (receivedOf_eq_nil hm (hj ▸ hlt)).trans hlate.symm
    · rintro o ho -
      rw [← Option.some.inj ho]
      exact ⟨rfl, hlate⟩
  · refine h.of_other rfl rfl rfl rfl (by simp [hnone]) ?_
    intro o ho
    rwa [← Option.some.inj ho]

/-- With the stream that closes, what waits comes too late. -/
theorem Accounts.closed {k : Nat} {d : Delivery} (h : Accounts k d) {o : Outlet}
    (ho : d.current = some o) : Accounts k d.closeStream := by
  obtain ⟨settled, n, hfated, heq, hdropped⟩ := h.fated
  have hreceived : d.closeStream.receivedOf k = d.receivedOf k := by
    rw [closeStream_eq ho]
    simp [receivedOf, receivedBatches, DeliveryEvent.received?]
  have hdelivered : d.closeStream.deliveredOf k = d.deliveredOf k := by
    rw [closeStream_eq ho]
    simp [deliveredOf, DeliveryEvent.called?]
  have hlost : d.closeStream.lostOf k = d.lostOf k := by
    rw [closeStream_eq ho]
    simp [lostOf, DeliveryEvent.lost?]
  have hlate : d.closeStream.lateOf k =
      d.lateOf k ++ if o.stream = k then o.batches.items else [] := by
    refine lateOf_append _ ?_ k
    rw [closeStream_eq ho]
    exact Consumers.note_late _ _
  have hnone := d.closeStream_current
  refine ⟨settled, n, ?_, ?_, by simp [hnone]⟩
  · rw [hdelivered, hlost]
    exact hfated
  · rw [hreceived, hlate, heq, waitingOf_of_current ho, waitingOf_eq_nil (by simp [hnone])]
    by_cases hk : o.stream = k
    · -- The outlet was current, so nothing of its stream has come too late before.
      rw [if_pos hk, (hdropped o ho hk).2]
      simp
    · simp only [if_neg hk, List.append_nil]

/-- Every change keeps the account of every stream. -/
theorem Change.accounts {n : Nat} {d d' : Delivery} (h : Change n d d') (ht : d.Tidy) {k : Nat}
    (hd : Accounts k d) : Accounts k d' := by
  cases h with
  | turned hturn => exact hturn.accounts ht hd
  | @received j signal _ => exact hd.publish j signal
  | opened hnone hm hlt _ => exact hd.opened hnone hm hlt
  | closed ho => exact hd.closed ho

end Delivery

end QuadDaq

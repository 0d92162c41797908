import QuadDaq.Delivery.Handoff
import QuadDaq.Proofs.Queue

/-!
# Drops are conserved, access by access

**However the accesses of the sampler and of the data worker interleave**, every
eviction is in exactly one place (`Conserves`): reported with a delivery, on the
counter, in the hand of the worker, or owed by the producer. What was pushed and not
evicted is delivered, in hand or waiting, in the order of the pushes.

Accesses that nothing falls in between are the steps of an outlet (`publishBatch_run`,
`takeBatch_run`), so the law is also one of the driver that takes those steps at once.
-/

namespace QuadDaq

/-- The element that an access pushes. -/
def Access.pushed? {α : Type} : Access α → Option α
  | .push a => some a
  | .count | .claim | .pop | .deliver | .giveBack => none

namespace Handoff

variable {α : Type} {h h' : Handoff α}

/-- What the worker has popped and not delivered. -/
def inHand (h : Handoff α) : List α :=
  match h.worker with
  | .delivering a _ => [a]
  | _ => []

/-- What was pushed and not evicted, in the order of the pushes. -/
def kept (h : Handoff α) : List α := h.deliveries.map Prod.fst ++ h.inHand ++ h.queue.items

/-- Elements and evictions after these pushes are all accounted for. -/
structure Conserves (pushed : List α) (h : Handoff α) : Prop where
  /-- Elements are delivered in the order of the pushes, and none of them twice. -/
  kept : h.kept.Sublist pushed
  /-- All others were evicted. -/
  evicted : pushed.length = h.kept.length + h.evictions
  /-- An eviction is reported, on the counter, claimed, or not counted yet. -/
  counted : h.evictions = h.reported + h.counter + h.claimed + h.owed

/-! ### Parties -/

/-- Neither party ever waits for the other one. -/
theorem neither_waits (h : Handoff α) (a : α) :
    ((h.step? (.push a)).isSome ∨ (h.step? .count).isSome) ∧
      ((h.step? .claim).isSome ∨ (h.step? .pop).isSome ∨ (h.step? .deliver).isSome ∨
        (h.step? .giveBack).isSome) := by
  constructor
  · cases howes : h.owes <;> simp [step?, howes]
  · cases hworker : h.worker <;> simp [step?, hworker]

/-- The producer pushes while it owes nothing. A full queue evicts its oldest element. -/
theorem push_cases (h : Handoff α) (a : α) :
    (∃ q, h.push a = { h with queue := q } ∧ q.items = h.queue.items ++ [a]) ∨
    ∃ q oldest rest, h.push a = { h with queue := q, owes := true, evictions := h.evictions + 1 } ∧
      h.queue.items = oldest :: rest ∧ q.items = rest ++ [a] := by
  rcases h.queue.push_cases a with ⟨-, hnone, hitems⟩ | ⟨oldest, rest, hold, -, hsome, hitems⟩
  · refine .inl ⟨_, ?_, hitems⟩
    rw [push, show h.queue.push a = ((h.queue.push a).1, none) from Prod.ext rfl hnone]
  · refine .inr ⟨_, oldest, rest, ?_, hold, hitems⟩
    rw [push, show h.queue.push a = ((h.queue.push a).1, some oldest) from Prod.ext rfl hsome]

/-- The worker pops what it delivers next, or finds nothing. -/
theorem pop_cases (h : Handoff α) (n : Nat) :
    (h.queue.items = [] ∧ h.pop n = { h with worker := .returning n }) ∨
    ∃ a rest, h.queue.items = a :: rest ∧
      h.pop n = { h with queue := h.queue.pop.1, worker := .delivering a n } := by
  cases hitems : h.queue.items with
  | nil =>
      refine .inl ⟨rfl, ?_⟩
      rw [pop, show h.queue.pop = (h.queue.pop.1, none) from Prod.ext rfl (by simp [DropOldest.pop, hitems])]
  | cons a rest =>
      refine .inr ⟨a, rest, rfl, ?_⟩
      rw [pop, show h.queue.pop = (h.queue.pop.1, some a) from Prod.ext rfl (by simp [DropOldest.pop, hitems])]

/-! ### The law -/

theorem conserves_opened (capacity : Nat) : (opened capacity : Handoff α).Conserves [] :=
  ⟨.slnil, rfl, rfl⟩

/-- The law is about where elements are, how many were evicted, and the sum of the four places
of an eviction. -/
theorem Conserves.of_frame {pushed : List α} (hc : h.Conserves pushed) (hkept : h'.kept = h.kept)
    (hevictions : h'.evictions = h.evictions)
    (hsum : h'.reported + h'.counter + h'.claimed + h'.owed =
      h.reported + h.counter + h.claimed + h.owed) : h'.Conserves pushed := by
  refine ⟨hkept ▸ hc.kept, ?_, ?_⟩
  · rw [hkept, hevictions, hc.evicted]
  · rw [hsum, hevictions, hc.counted]

/-- A push keeps the law: what it evicts is owed from then on. -/
theorem Conserves.push {pushed : List α} (hc : h.Conserves pushed) (howes : h.owes = false) (a : α) :
    (h.push a).Conserves (pushed ++ [a]) := by
  obtain ⟨hkept, hevicted, hcounted⟩ := hc
  rcases h.push_cases a with ⟨q, heq, hitems⟩ | ⟨q, oldest, rest, heq, hold, hitems⟩
  · have hadds : (h.push a).kept = h.kept ++ [a] := by
      simp only [heq, Handoff.kept, inHand, hitems, List.append_assoc]
    refine ⟨?_, ?_, ?_⟩
    · rw [hadds]
      exact hkept.append (.refl _)
    · rw [hadds, heq]
      simp only [List.length_append, hevicted]
      omega
    · rw [heq]
      exact hcounted
  · -- The evicted element is taken out of the middle, between what is in hand and what waits.
    have hadds : (h.push a).kept = h.deliveries.map Prod.fst ++ h.inHand ++ (rest ++ [a]) := by
      simp only [heq, Handoff.kept, inHand, hitems]
    rw [Handoff.kept, hold] at hkept hevicted
    refine ⟨?_, ?_, ?_⟩
    · rw [hadds, ← List.append_assoc]
      refine List.Sublist.append (.trans ?_ hkept) (.refl _)
      exact (List.sublist_cons_self oldest rest).append_left _
    · rw [hadds, heq]
      simp only [List.length_append, List.length_cons, List.length_nil] at hevicted ⊢
      omega
    · have hnone : h.owed = 0 := by simp [owed, howes]
      have howed : (h.push a).owed = 1 := by simp [owed, heq]
      rw [howed, heq]
      simp only [reported, claimed] at hcounted ⊢
      omega

/-- A pop keeps the law: the claimed number stays claimed, whatever was popped. -/
theorem Conserves.pop {pushed : List α} (hc : h.Conserves pushed) {n : Nat}
    (hworker : h.worker = .claimed n) : (h.pop n).Conserves pushed := by
  rcases h.pop_cases n with ⟨-, heq⟩ | ⟨a, rest, hitems, heq⟩
  · rw [heq]
    exact hc.of_frame (by simp [Handoff.kept, inHand, hworker]) rfl
      (by simp [reported, claimed, owed, hworker])
  · rw [heq]
    exact hc.of_frame (by simp [Handoff.kept, inHand, hworker, hitems]) rfl
      (by simp [reported, claimed, owed, hworker])

/-- Every access keeps the law. -/
theorem Conserves.step {pushed : List α} (hc : h.Conserves pushed) {access : Access α}
    (hstep : h.step? access = some h') : h'.Conserves (pushed ++ access.pushed?.toList) := by
  cases access with
  | push a =>
      simp only [step?, Option.ite_none_left_eq_some, Option.some.injEq] at hstep
      obtain ⟨howes, rfl⟩ := hstep
      exact hc.push (by simpa using howes) a
  | count =>
      -- What was owed is on the counter.
      simp only [step?, Option.ite_none_right_eq_some, Option.some.injEq] at hstep
      obtain ⟨howes, rfl⟩ := hstep
      rw [Access.pushed?, Option.toList_none, List.append_nil]
      refine hc.of_frame rfl rfl ?_
      simp only [reported, claimed, owed, howes, if_true, Bool.false_eq_true, if_false]
      omega
  | claim =>
      cases hworker : h.worker <;> simp only [step?, hworker, reduceCtorEq, Option.some.injEq] at hstep
      subst hstep
      rw [Access.pushed?, Option.toList_none, List.append_nil]
      refine hc.of_frame (by simp [Handoff.kept, inHand, hworker]) rfl ?_
      simp only [reported, claimed, hworker, owed]
      omega
  | pop =>
      cases hworker : h.worker <;> simp only [step?, hworker, reduceCtorEq, Option.some.injEq] at hstep
      subst hstep
      rw [Access.pushed?, Option.toList_none, List.append_nil]
      exact hc.pop hworker
  | deliver =>
      -- The claimed number is the reported one.
      cases hworker : h.worker <;> simp only [step?, hworker, reduceCtorEq, Option.some.injEq] at hstep
      subst hstep
      rw [Access.pushed?, Option.toList_none, List.append_nil]
      refine hc.of_frame (by simp [Handoff.kept, inHand, hworker]) rfl ?_
      simp only [reported, List.foldl_append, List.foldl_cons, List.foldl_nil, claimed, hworker,
        owed]
      omega
  | giveBack =>
      cases hworker : h.worker <;> simp only [step?, hworker, reduceCtorEq, Option.some.injEq] at hstep
      subst hstep
      rw [Access.pushed?, Option.toList_none, List.append_nil]
      refine hc.of_frame (by simp [Handoff.kept, inHand, hworker]) rfl ?_
      simp only [reported, claimed, hworker, owed]
      omega

theorem run?_cons (h : Handoff α) (access : Access α) (rest : List (Access α)) :
    h.run? (access :: rest) = (h.step? access).bind fun h => h.run? rest :=
  List.foldlM_cons

/-- So every run keeps it. -/
theorem Conserves.run {pushed : List α} (hc : h.Conserves pushed) {accesses : List (Access α)}
    (hrun : h.run? accesses = some h') :
    h'.Conserves (pushed ++ accesses.filterMap Access.pushed?) := by
  induction accesses generalizing h pushed with
  | nil =>
      obtain rfl : h = h' := Option.some.inj hrun
      rwa [List.filterMap_nil, List.append_nil]
  | cons access rest ih =>
      rw [run?_cons, Option.bind_eq_some_iff] at hrun
      obtain ⟨h₁, hstep, hrest⟩ := hrun
      have hall := ih (hc.step hstep) hrest
      have hsplit : (access :: rest).filterMap Access.pushed? =
          access.pushed?.toList ++ rest.filterMap Access.pushed? := by
        cases hpushed : access.pushed? <;> simp [hpushed]
      rwa [List.append_assoc, ← hsplit] at hall

/-- Between two operations of both parties nothing is claimed or owed. -/
theorem Conserves.quiet {pushed : List α} (hc : h.Conserves pushed) (hquiet : h.isQuiet = true) :
    h.reported + h.counter = h.evictions := by
  have hcounted := hc.counted
  simp only [isQuiet, Bool.and_eq_true, Bool.not_eq_true'] at hquiet
  obtain ⟨howes, hidle⟩ := hquiet
  cases hworker : h.worker <;> simp only [hworker, Bool.false_eq_true] at hidle
  simp only [claimed, hworker, owed, howes, Bool.false_eq_true, if_false] at hcounted
  omega

/-- Whatever one producer and one worker did to a queue of any capacity, and wherever both of
them are, no drop is reported twice or forgotten. -/
theorem drops_conserved (capacity : Nat) (accesses : List (Access α))
    (hrun : (opened capacity).run? accesses = some h) :
    h.Conserves (accesses.filterMap Access.pushed?) ∧ h.reported ≤ h.evictions ∧
      (h.isQuiet = true → h.reported + h.counter = h.evictions) := by
  have hc := (conserves_opened capacity).run hrun
  rw [List.nil_append] at hc
  refine ⟨hc, ?_, hc.quiet⟩
  have hcounted := hc.counted
  omega

/-- The worker claims before an eviction and pops after it, and adds a claimed number back
while another eviction is owed. -/
def racing : List (Access Nat) :=
  [.push 1, .claim, .push 2, .pop, .count, .deliver, .claim, .pop, .push 3, .push 4, .giveBack,
    .count, .claim, .pop, .deliver]

theorem drops_conserved_racing :
    ∃ h, (opened 1).run? racing = some h ∧ h.deliveries = [(2, 0), (4, 2)] ∧ h.evictions = 2 ∧
      h.reported + h.counter = h.evictions :=
  ⟨_, rfl, rfl, rfl, (drops_conserved 1 racing rfl).2.2 rfl⟩

/-! ### Uninterrupted operations -/

/-- Both parties are between two operations, and share what an outlet holds. -/
structure Mirrors (h : Handoff Batch) (o : Outlet) : Prop where
  queue : h.queue = o.batches
  counter : h.counter = o.dropped
  owes : h.owes = false
  worker : h.worker = .idle

/-- A producer that is not interrupted publishes a batch as an outlet does. -/
theorem publishBatch_run {h : Handoff Batch} {o : Outlet} (hm : h.Mirrors o) (b : Batch) :
    ∃ rest h', h.run? (.push b :: rest) = some h' ∧ h'.Mirrors (o.publishBatch b).1 ∧
      h'.deliveries = h.deliveries ∧
      h'.evictions = h.evictions + (o.publishBatch b).2.toList.length := by
  obtain ⟨hqueue, hcounter, howes, hworker⟩ := hm
  rcases hpush : h.queue.push b with ⟨q, evicted⟩
  have houtlet := hqueue ▸ hpush
  cases evicted with
  | none =>
      refine ⟨[], { h with queue := q }, ?_, ?_, rfl, ?_⟩
      · simp [run?, step?, howes, push, hpush]
      · exact ⟨by simp [Outlet.publishBatch, houtlet], by simp [Outlet.publishBatch, houtlet, hcounter],
          howes, hworker⟩
      · simp [Outlet.publishBatch, houtlet]
  | some old =>
      refine ⟨[.count], { h with queue := q, counter := h.counter + 1, evictions := h.evictions + 1 },
        ?_, ?_, rfl, ?_⟩
      · simp [run?, step?, howes, push, hpush]
      · exact ⟨by simp [Outlet.publishBatch, houtlet, Outlet.report],
          by simp [Outlet.publishBatch, houtlet, Outlet.report, hcounter], howes, hworker⟩
      · simp [Outlet.publishBatch, houtlet]

/-- A worker that is not interrupted takes a batch as from an outlet, and delivers it with the
number that it claimed. -/
theorem takeBatch_run {h : Handoff Batch} {o : Outlet} (hm : h.Mirrors o) :
    ∃ last h', h.run? [.claim, .pop, last] = some h' ∧ h'.Mirrors o.takeBatch.1 ∧
      h'.deliveries = h.deliveries ++ o.takeBatch.2.toList ∧ h'.evictions = h.evictions := by
  obtain ⟨hqueue, hcounter, howes, hworker⟩ := hm
  rcases hpop : h.queue.pop with ⟨q, taken⟩
  have houtlet := hqueue ▸ hpop
  cases taken with
  | none =>
      refine ⟨.giveBack, { h with worker := .idle, counter := 0 + h.counter }, ?_, ?_, ?_, rfl⟩
      · simp [run?, step?, hworker, pop, hpop]
      · exact ⟨by simp [Outlet.takeBatch, houtlet, hqueue],
          by simp [Outlet.takeBatch, houtlet, hcounter], howes, rfl⟩
      · simp [Outlet.takeBatch, houtlet]
  | some b =>
      refine ⟨.deliver, { h with queue := q, counter := 0, deliveries := h.deliveries ++ [(b, h.counter)] },
        ?_, ?_, ?_, rfl⟩
      · simp [run?, step?, hworker, pop, hpop]
      · exact ⟨by simp [Outlet.takeBatch, houtlet], by simp [Outlet.takeBatch, houtlet], howes, hworker⟩
      · simp [Outlet.takeBatch, houtlet, hcounter]

end Handoff

end QuadDaq

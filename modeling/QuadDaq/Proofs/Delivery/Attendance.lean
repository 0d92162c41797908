import QuadDaq.Proofs.Delivery.Balance

/-!
# Where the event consumers are

**A registered consumer is in its place or inside a call** (`Attended`), whatever the
workers do and however streams are started and stopped meanwhile.

`beginEvent_takes` says once what the event worker takes up and whom it calls. Everything
else about events is put together from it.
-/

namespace QuadDaq

/-! ### Taking up an event -/

/-- What the event worker takes up. -/
inductive TakenEvent
  | transition (t : Transition)
  | errors (errors : ErrorSet)

namespace TakenEvent

/-- The kind of consumer that it is for. -/
def kind : TakenEvent → EventKind
  | .transition _ => .button
  | .errors _ => .error

/-- The log entry of a call with it. -/
def called (k : Nat) (consumer : String) : TakenEvent → DeliveryEvent
  | .transition t => .transition k consumer t
  | .errors set => .errors k consumer set

/-- The log entry if no consumer is in place. -/
def unclaimed (k : Nat) : TakenEvent → DeliveryEvent
  | .transition t => .transitionUnclaimed k t
  | .errors set => .errorsUnclaimed k set

end TakenEvent

/-- The next event of an outlet, and what the outlet is without it. -/
inductive Outlet.Offers (o : Outlet) : TakenEvent → Outlet → Prop
  | transition {t : Transition} {rest : List Transition} :
      o.transitions.items = t :: rest →
      o.Offers (.transition t) { o with transitions := o.transitions.pop.1 }
  | errors :
      o.transitions.items = [] →
      o.errors ≠ [] →
      o.Offers (.errors o.errors) { o with errors := [] }

/-- Taking up an event leaves the rest of the outlet alone. -/
theorem Outlet.Offers.same {o rest : Outlet} {event : TakenEvent} (h : o.Offers event rest) :
    o.SameData rest ∧ rest.eventCall = o.eventCall := by
  cases h <;> exact ⟨⟨rfl, rfl, rfl, rfl, rfl⟩, rfl⟩

namespace Consumers

variable {c c' : Consumers} {o o' : Outlet}

theorem setRegistration_registration (c : Consumers) (kind : EventKind) (r : Registration String)
    (kind' : EventKind) :
    (c.setRegistration kind r).registration kind' = if kind' = kind then r else c.registration kind' := by
  cases kind <;> cases kind' <;> rfl

theorem setRegistration_counters (c : Consumers) (kind : EventKind) (r : Registration String) :
    (c.setRegistration kind r).counters = c.counters := by
  cases kind <;> rfl

/-- The consumer of an event is called if it is in its place, and nobody is called otherwise. -/
theorem beginCall_cases {kind : EventKind} {called : String → DeliveryEvent}
    {unclaimed : DeliveryEvent} (h : c.beginCall o kind called unclaimed = (c', o')) :
    ((c.registration kind).current = none ∧ c' = c.note unclaimed ∧ o' = o) ∨
    ∃ consumer, (c.registration kind).current = some consumer ∧
      c' = (c.setRegistration kind ⟨none, (c.registration kind).generation⟩).note
        (called consumer) ∧
      o' = { o with eventCall := some ⟨kind, consumer, (c.registration kind).generation⟩ } := by
  unfold beginCall Registration.lend at h
  cases hplace : (c.registration kind).current with
  | none =>
      simp only [hplace, Option.map_none] at h
      obtain ⟨rfl, rfl⟩ := Prod.mk.inj h
      exact .inl ⟨rfl, rfl, rfl⟩
  | some consumer =>
      simp only [hplace, Option.map_some] at h
      obtain ⟨rfl, rfl⟩ := Prod.mk.inj h
      exact .inr ⟨consumer, rfl, rfl, rfl⟩

/-- An open outlet that is inside no event call takes up what it offers. The consumer is called
if it is in its place, and nobody is called otherwise. -/
theorem beginEvent_takes {kind : EventKind} (h : c.beginEvent o = some (kind, c', o')) :
    o.closed = false ∧ o.eventCall = none ∧ ∃ event rest, o.Offers event rest ∧ event.kind = kind ∧
      (((c.registration kind).current = none ∧ c' = c.note (event.unclaimed o.stream) ∧ o' = rest) ∨
      ∃ consumer, (c.registration kind).current = some consumer ∧
        c' = (c.setRegistration kind ⟨none, (c.registration kind).generation⟩).note
          (event.called o.stream consumer) ∧
        o' = { rest with eventCall := some ⟨kind, consumer, (c.registration kind).generation⟩ }) := by
  unfold beginEvent at h
  split at h
  · cases h
  · next hfree =>
      simp only [Bool.or_eq_true, not_or, Bool.not_eq_true, Option.isSome_eq_false_iff,
        Option.isNone_iff_eq_none] at hfree
      refine ⟨hfree.1, hfree.2, ?_⟩
      cases hitems : o.transitions.items with
      | cons t rest =>
          have htake : o.takeTransition =
              ({ o with transitions := o.transitions.pop.1 }, some t) := by
            simp [Outlet.takeTransition, DropOldest.pop, hitems]
          simp only [htake, Option.some.injEq, Prod.mk.injEq] at h
          obtain ⟨rfl, hcall⟩ := h
          exact ⟨.transition t, _, .transition hitems, rfl, beginCall_cases hcall⟩
      | nil =>
          have htake : o.takeTransition =
              ({ o with transitions := o.transitions.pop.1 }, none) := by
            simp [Outlet.takeTransition, DropOldest.pop, hitems]
          simp only [htake] at h
          by_cases hempty : o.errors = []
          · simp [Outlet.takeErrors, hempty] at h
          · have hnot : ¬o.errors.isEmpty = true := by simpa using hempty
            simp only [Outlet.takeErrors, if_neg hnot, Option.some.injEq, Prod.mk.injEq] at h
            obtain ⟨rfl, hcall⟩ := h
            exact ⟨.errors o.errors, _, .errors hitems hempty, rfl,
              beginCall_cases hcall⟩

end Consumers

/-! ### Places and calls -/

/-- The outlet is inside a call of this kind, with the consumer of this generation. -/
def Outlet.Holds (o : Outlet) (kind : EventKind) (generation : Nat) : Prop :=
  ∃ call, o.eventCall = some call ∧ call.kind = kind ∧ call.loan.generation = generation

/-- What a worker does to the places of consumers: it takes a consumer out for a call, or puts
it back after one, or leaves them alone. -/
theorem Work.place_cases {c c' : Consumers} {o o' : Outlet} (h : Work (c, o) (c', o')) :
    (∃ kind consumer, o.closed = false ∧ o.eventCall = none ∧
      (c.registration kind).current = some consumer ∧
      (∀ kind', c'.registration kind' =
        if kind' = kind then ⟨none, (c.registration kind).generation⟩ else c.registration kind') ∧
      o'.eventCall = some ⟨kind, consumer, (c.registration kind).generation⟩) ∨
    (∃ call, o.eventCall = some call ∧ o'.eventCall = none ∧
      ∀ kind', c'.registration kind' =
        if kind' = call.kind then (c.registration kind').giveBack call.loan
        else c.registration kind') ∨
    ((∀ kind, c'.registration kind = c.registration kind) ∧ o'.eventCall = o.eventCall) := by
  have hnote : ∀ (c : Consumers) (event : DeliveryEvent) (kind : EventKind),
      (c.note event).registration kind = c.registration kind := by
    intro c event kind
    cases kind <;> rfl
  cases h with
  | batchBegan _ _ _ => exact .inr (.inr ⟨hnote c _, rfl⟩)
  | batchEnded _ =>
      refine .inr (.inr ⟨fun kind => ?_, rfl⟩)
      cases kind <;> rfl
  | eventBegan hbegin =>
      obtain ⟨hopen, hfree, event, rest, hoffers, -, hcall⟩ := Consumers.beginEvent_takes hbegin
      rcases hcall with ⟨-, rfl, rfl⟩ | ⟨consumer, hplace, rfl, rfl⟩
      · exact .inr (.inr ⟨hnote c _, hoffers.same.2⟩)
      · refine .inl ⟨_, consumer, hopen, hfree, hplace, fun kind' => ?_, rfl⟩
        rw [hnote, Consumers.setRegistration_registration]
  | @eventEnded _ _ call hcall =>
      refine .inr (.inl ⟨call, hcall, rfl, fun kind' => ?_⟩)
      rw [Consumers.eventDone, Consumers.setRegistration_registration]
      split
      · next h => rw [h]
      · rfl

/-- No place forgets how often it was taken. -/
theorem Work.generation_eq {c c' : Consumers} {o o' : Outlet} (h : Work (c, o) (c', o'))
    (kind : EventKind) : (c'.registration kind).generation = (c.registration kind).generation := by
  rcases h.place_cases with ⟨kind', consumer, -, -, -, hplaces, -⟩ | ⟨call, -, -, hplaces⟩ |
    ⟨hplaces, -⟩
  · rw [hplaces]
    split
    · next heq => rw [heq]
    · rfl
  · rw [hplaces]
    split
    · unfold Registration.giveBack
      split <;> rfl
    · rfl
  · rw [hplaces]

/-- No loan is newer than its place, and a registered consumer is in its place or on loan to one
of these outlets. -/
structure Housed (places : EventKind → Registration String) (outlets : List Outlet) : Prop where
  aged : ∀ o ∈ outlets, ∀ call, o.eventCall = some call →
    call.loan.generation ≤ (places call.kind).generation
  housed : ∀ kind, 0 < (places kind).generation →
    (places kind).current.isSome ∨ ∃ o ∈ outlets, o.Holds kind (places kind).generation

namespace Housed

variable {places places' : EventKind → Registration String} {before after : List Outlet}
  {o o' : Outlet}

/-- What is true of no other outlet than `o` is true of one of the rest. -/
theorem exists_of_not {P : Outlet → Prop} (h : ∃ x ∈ before ++ o :: after, P x) (ho : ¬P o) :
    ∃ x ∈ before ++ o' :: after, P x := by
  obtain ⟨x, hx, hP⟩ := h
  refine ⟨x, ?_, hP⟩
  simp only [List.mem_append, List.mem_cons] at hx ⊢
  rcases hx with hmem | rfl | hmem
  · exact .inl hmem
  · exact absurd hP ho
  · exact .inr (.inr hmem)

/-- A registration puts a consumer in its place. -/
theorem set {outlets : List Outlet} (h : Housed places outlets) {kind : EventKind}
    {consumer : String}
    (hplaces : ∀ kind', places' kind' =
      if kind' = kind then (places kind).set consumer else places kind') :
    Housed places' outlets := by
  refine ⟨fun o ho call hcall => ?_, fun kind' hpos => ?_⟩
  · have hle := h.aged o ho call hcall
    rw [hplaces]
    split
    · next heq =>
        rw [heq] at hle
        exact Nat.le_succ_of_le hle
    · exact hle
  · rw [hplaces] at hpos ⊢
    split
    · exact .inl rfl
    · next hne =>
        rw [if_neg hne] at hpos
        exact h.housed kind' hpos

/-- A worker takes a consumer out of its place into a call. -/
theorem lend (h : Housed places (before ++ o :: after)) {kind : EventKind} {consumer : String}
    (hfree : o.eventCall = none)
    (hplaces : ∀ kind', places' kind' =
      if kind' = kind then ⟨none, (places kind).generation⟩ else places kind')
    (ho' : o'.eventCall = some ⟨kind, consumer, (places kind).generation⟩) :
    Housed places' (before ++ o' :: after) := by
  have hgeneration : ∀ kind', (places' kind').generation = (places kind').generation := by
    intro kind'
    rw [hplaces]
    split
    · next heq => rw [heq]
    · rfl
  constructor
  · have haged : ∀ x ∈ before ++ o :: after, ∀ call, x.eventCall = some call →
        call.loan.generation ≤ (places' call.kind).generation :=
      fun x hx call hcall => hgeneration _ ▸ h.aged x hx call hcall
    refine forall_mem_replaced haged fun _ call hcall => ?_
    rw [ho', Option.some.injEq] at hcall
    rw [← hcall, hgeneration]
  · intro kind' hpos
    rw [hgeneration] at hpos ⊢
    by_cases heq : kind' = kind
    · -- This consumer is inside the new call.
      exact .inr ⟨o', by simp, _, ho', heq.symm, by rw [heq]⟩
    · rcases h.housed kind' hpos with hplace | hheld
      · left
        rwa [hplaces, if_neg heq]
      · right
        refine exists_of_not hheld ?_
        rintro ⟨call, hcall, -⟩
        rw [hfree] at hcall
        cases hcall

/-- A worker puts a consumer back after a call, unless another one was registered since. -/
theorem giveBack (h : Housed places (before ++ o :: after)) {call : EventCall}
    (hcall : o.eventCall = some call)
    (hplaces : ∀ kind', places' kind' =
      if kind' = call.kind then (places kind').giveBack call.loan else places kind')
    (ho' : o'.eventCall = none) : Housed places' (before ++ o' :: after) := by
  have hgeneration : ∀ kind', (places' kind').generation = (places kind').generation := by
    intro kind'
    rw [hplaces]
    split
    · unfold Registration.giveBack
      split <;> rfl
    · rfl
  constructor
  · have haged : ∀ x ∈ before ++ o :: after, ∀ call, x.eventCall = some call →
        call.loan.generation ≤ (places' call.kind).generation :=
      fun x hx call hcall => hgeneration _ ▸ h.aged x hx call hcall
    refine forall_mem_replaced haged fun _ call hcall => ?_
    rw [ho'] at hcall
    cases hcall
  · intro kind' hpos
    rw [hgeneration] at hpos ⊢
    by_cases hheld : o.Holds kind' (places kind').generation
    · -- The consumer that was registered last comes back.
      obtain ⟨call', hcall', hkind, hloan⟩ := hheld
      obtain rfl : call = call' := Option.some.inj (hcall.symm.trans hcall')
      left
      rw [hplaces, if_pos hkind.symm, Registration.giveBack, if_pos hloan.symm]
      rfl
    · rcases h.housed kind' hpos with hplace | hother
      · left
        rw [hplaces]
        split
        · unfold Registration.giveBack
          split
          · rfl
          · exact hplace
        · exact hplace
      · exact .inr (exists_of_not hother hheld)

/-- Whatever a worker does, a registered consumer is somewhere. -/
theorem work {c c' : Consumers} (h : Housed c.registration (before ++ o :: after))
    (hwork : Work (c, o) (c', o')) : Housed c'.registration (before ++ o' :: after) := by
  rcases hwork.place_cases with ⟨kind, consumer, -, hfree, -, hplaces, ho'⟩ |
    ⟨call, hcall, ho', hplaces⟩ | ⟨hplaces, ho'⟩
  · exact h.lend hfree hplaces ho'
  · exact h.giveBack hcall hplaces ho'
  · have hsame : c'.registration = c.registration := funext hplaces
    rw [hsame]
    refine ⟨forall_mem_replaced h.aged fun hle call hcall => hle call (ho' ▸ hcall), ?_⟩
    intro kind hpos
    refine (h.housed kind hpos).imp_right ?_
    rintro ⟨x, hx, call, hcall, hcall'⟩
    simp only [List.mem_append, List.mem_cons] at hx
    rcases hx with hmem | rfl | hmem
    · exact ⟨x, by simp [hmem], call, hcall, hcall'⟩
    · exact ⟨o', by simp, call, ho'.trans hcall, hcall'⟩
    · exact ⟨x, by simp [hmem], call, hcall, hcall'⟩

/-- An outlet that is inside no call does not matter. -/
theorem letGo (h : Housed places (before ++ o :: after)) (hfree : o.eventCall = none) :
    Housed places (before ++ after) := by
  refine ⟨forall_mem_removed h.aged, fun kind hpos => (h.housed kind hpos).imp_right ?_⟩
  rintro ⟨x, hx, call, hcall, hcall'⟩
  simp only [List.mem_append, List.mem_cons] at hx
  rcases hx with hmem | rfl | hmem
  · exact ⟨x, by simp [hmem], call, hcall, hcall'⟩
  · rw [hfree] at hcall
    cases hcall
  · exact ⟨x, by simp [hmem], call, hcall, hcall'⟩

/-- Only the calls of the outlets matter, and not their order. -/
theorem of_calls {outlets outlets' : List Outlet} (h : Housed places outlets)
    (hforth : ∀ o ∈ outlets, o.eventCall.isSome → ∃ o' ∈ outlets', o'.eventCall = o.eventCall)
    (hback : ∀ o' ∈ outlets', o'.eventCall.isSome → ∃ o ∈ outlets, o.eventCall = o'.eventCall) :
    Housed places outlets' := by
  constructor
  · intro o' ho' call hcall
    obtain ⟨o, ho, heq⟩ := hback o' ho' (by rw [hcall]; rfl)
    exact h.aged o ho call (heq.trans hcall)
  · intro kind hpos
    refine (h.housed kind hpos).imp_right ?_
    rintro ⟨o, ho, call, hcall, hcall'⟩
    obtain ⟨o', ho', heq⟩ := hforth o ho (by rw [hcall]; rfl)
    exact ⟨o', ho', call, heq.trans hcall, hcall'⟩

end Housed

namespace Delivery

/-- All outlets. -/
def outlets (d : Delivery) : List Outlet := d.current.toList ++ d.retired

/-- A registered consumer is in its place or inside a call. -/
def Attended (d : Delivery) : Prop := Housed d.registration d.outlets

/-- A consumer of this kind was registered. -/
def Registered (d : Delivery) (kind : EventKind) : Prop := 0 < (d.registration kind).generation

/-- The consumer that was registered last has not returned from a call of a stream that was
stopped. -/
def Detained (d : Delivery) (kind : EventKind) : Prop :=
  ∃ o ∈ d.retired, o.Holds kind (d.registration kind).generation

variable {d d' : Delivery} {kind : EventKind} {n : Nat}

theorem publish_eventCall (o : Outlet) (signal : Signal) :
    (o.publish signal).1.eventCall = o.eventCall := by
  cases signal with
  | batch b =>
      simp only [Outlet.publish, Outlet.publishBatch]
      split <;> rfl
  | transition t =>
      simp only [Outlet.publish, Outlet.publishTransition]
      split <;> rfl
  | error code message => rfl

theorem lose_registration (c : Consumers) (k : Nat) (loss : Option Loss) (kind : EventKind) :
    (c.lose k loss).registration kind = c.registration kind := by
  rcases loss with _ | (b | t) <;> cases kind <;> rfl

theorem forfeit_registration (c : Consumers) (k : Nat) (signal : Signal) (kind : EventKind) :
    (forfeit c k signal).registration kind = c.registration kind := by
  cases signal <;> cases kind <;> rfl

/-- A publication is no matter of consumers. -/
theorem publish_places (d : Delivery) (k : Nat) (signal : Signal) :
    (d.publish k signal).registration = d.registration ∧
      (d.publish k signal).retired = d.retired ∧
      (d.publish k signal).current.map Outlet.eventCall = d.current.map Outlet.eventCall := by
  have hnote : ∀ kind, (d.note (.received k signal)).registration kind = d.registration kind := by
    intro kind
    cases kind <;> rfl
  unfold publish
  cases ho : d.current with
  | none =>
      exact ⟨funext fun kind => (forfeit_registration _ k signal kind).trans (hnote kind), by simp⟩
  | some o =>
      by_cases hk : o.stream = k
      · simp only [if_pos hk]
        exact ⟨funext fun kind => (lose_registration _ k _ kind).trans (hnote kind),
          by simp [publish_eventCall]⟩
      · simp only [if_neg hk]
        exact ⟨funext fun kind => (forfeit_registration _ k signal kind).trans (hnote kind), by simp⟩

theorem publish_eventCalls (d : Delivery) (k : Nat) (signal : Signal) :
    (d.publish k signal).outlets.map Outlet.eventCall = d.outlets.map Outlet.eventCall := by
  obtain ⟨-, hretired, hcurrent⟩ := d.publish_places k signal
  rw [outlets, outlets, List.map_append, List.map_append, hretired, ← Option.toList_map,
    ← Option.toList_map, hcurrent]

theorem closeStream_places (d : Delivery) : d.closeStream.registration = d.registration := by
  unfold closeStream
  cases d.current with
  | none => rfl
  | some o => exact funext fun kind => by cases kind <;> rfl

theorem Turn.attended (h : Turn d d') (hd : d.Attended) : d'.Attended := by
  cases h with
  | @worked o _ _ ho hwork =>
      rw [Attended, outlets, ho] at hd
      exact (show Housed d.registration ([] ++ o :: d.retired) from hd).work hwork
  | @workedRetired before after o o' c' hr hwork =>
      rw [Attended, outlets, hr, ← List.append_assoc] at hd
      have hall := hd.work hwork
      rwa [List.append_assoc] at hall
  | letGo hr hbusy =>
      rw [Outlet.isBusy, Bool.or_eq_false_iff] at hbusy
      rw [Attended, outlets, hr, ← List.append_assoc] at hd
      have hall := hd.letGo (by simpa using hbusy.2)
      rwa [List.append_assoc] at hall
  | registered kind consumer =>
      have hplaces : ∀ kind', (d.register kind consumer).registration kind' =
          if kind' = kind then (d.registration kind).set consumer else d.registration kind' :=
        Consumers.setRegistration_registration d.toConsumers kind _
      exact hd.set hplaces
  | held kind on =>
      have hsame : (d.toConsumers.setHold kind on).registration = d.registration := by
        funext kind
        cases kind <;> rfl
      rw [Attended, hsame]
      exact hd

/-- Every change leaves a registered consumer in its place or inside a call. -/
theorem Change.attended (h : Change n d d') (hd : d.Attended) : d'.Attended := by
  cases h with
  | turned hturn => exact hturn.attended hd
  | @received k signal _ =>
      rw [Attended, (d.publish_places k signal).1]
      have hcalls := d.publish_eventCalls k signal
      have hmem : ∀ {l l' : List Outlet}, l'.map Outlet.eventCall = l.map Outlet.eventCall →
          ∀ o ∈ l, ∃ o' ∈ l', o'.eventCall = o.eventCall := by
        intro l l' heq o ho
        exact List.mem_map.mp (heq ▸ List.mem_map_of_mem ho)
      exact hd.of_calls (fun o ho _ => hmem hcalls o ho) fun o ho _ => hmem hcalls.symm o ho
  | opened hnone _ _ _ =>
      refine hd.of_calls (fun o ho _ => ⟨o, ?_, rfl⟩) fun o ho hcall => ⟨o, ?_, rfl⟩
      · rw [outlets, hnone] at ho
        exact List.mem_append_right _ ho
      · rcases List.mem_append.mp ho with hnew | hold
        · simp only [openStream, Option.toList_some, List.mem_singleton] at hnew
          rw [hnew] at hcall
          cases hcall
        · exact List.mem_append_right _ hold
  | @closed o ho =>
      rw [Attended, closeStream_places]
      rw [Attended, outlets, ho] at hd
      rw [closeStream_eq ho]
      by_cases hbusy : o.isBusy
      · simp only [outlets, if_pos hbusy, Option.toList_none, List.nil_append]
        refine hd.of_calls (fun x hx _ => ?_) fun x hx _ => ?_
        · rcases List.mem_append.mp hx with hcurrent | hmem
          · rw [List.mem_singleton.mp hcurrent]
            exact ⟨o.close.1, by simp, rfl⟩
          · exact ⟨x, by simp [hmem], rfl⟩
        · rcases List.mem_append.mp hx with hmem | hcurrent
          · exact ⟨x, by simp [hmem], rfl⟩
          · rw [List.mem_singleton.mp hcurrent]
            exact ⟨o, by simp, rfl⟩
      · simp only [outlets, if_neg hbusy, Option.toList_none, List.nil_append]
        rw [Bool.not_eq_true, Outlet.isBusy, Bool.or_eq_false_iff] at hbusy
        have hall : Housed d.registration ([] ++ o :: d.retired) := hd
        exact hall.letGo (by simpa using hbusy.2)

end Delivery

end QuadDaq

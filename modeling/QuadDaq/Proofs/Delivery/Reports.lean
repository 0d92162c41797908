import QuadDaq.Proofs.Delivery.Claiming
import QuadDaq.Proofs.Stream.Signals

/-!
# Errors are told in full

**What the error consumer is told of, and what it still has to be told of, are all reports
of a stream**, each of them once (`Delivery.Tells`). A set of errors tells of the reports
that it was gathered from: of every code that was reported, in the order of first
occurrence, how often it was and what the latest report said (`ErrorSet.Tells`).

Reports are handed in with the signals, or come of what a full queue gave up
(`publishAll_reports`).
-/

namespace QuadDaq

/-! ### Sets of errors -/

namespace ErrorSet

/-- The set tells of these reports, in order, and of no others. -/
structure Tells (errors : ErrorSet) (reports : List Occurrence) : Prop where
  /-- Every code stands where it first occurred. -/
  codes : errors.map ErrorEntry.code = (reports.map Prod.fst).eraseDups
  distinct : (errors.map ErrorEntry.code).Nodup
  counts : ∀ e ∈ errors, e.count = reports.countP fun r => r.1 = e.code
  /-- The message is that of the latest report. -/
  messages : ∀ e ∈ errors,
    (reports.filter fun r => r.1 = e.code).getLast? = some (e.code, e.message)

/-- Gathers reports in order. -/
def recordAll (reports : List Occurrence) (errors : ErrorSet) : ErrorSet :=
  reports.foldl (fun errors r => errors.record r.1 r.2) errors

variable {errors : ErrorSet} {reports : List Occurrence} {code : ErrorCode}

theorem add_codes (code : ErrorCode) (n : Nat) (message : String) (errors : ErrorSet) :
    (add code n message errors).map ErrorEntry.code =
      if code ∈ errors.map ErrorEntry.code then errors.map ErrorEntry.code
      else errors.map ErrorEntry.code ++ [code] := by
  induction errors with
  | nil => rfl
  | cons e rest ih =>
      by_cases he : e.code = code
      · simp [add, he]
      · have he' : ¬code = e.code := fun h => he h.symm
        simp only [add, if_neg he, List.map_cons, ih, List.mem_cons, he', false_or]
        split <;> rfl

/-- Of a code that the set has, the occurrences add up, and the others stay as they are. -/
theorem mem_add {n : Nat} {message : String} {e : ErrorEntry}
    (hdistinct : (errors.map ErrorEntry.code).Nodup) (he : e ∈ add code n message errors) :
    (e ∈ errors ∧ e.code ≠ code) ∨ e = ⟨code, errors.count code + n, message⟩ := by
  induction errors with
  | nil =>
      right
      simpa [add, count] using he
  | cons x rest ih =>
      rw [List.map_cons, List.nodup_cons] at hdistinct
      by_cases hx : x.code = code
      · simp only [add, if_pos hx, List.mem_cons] at he
        rcases he with rfl | hmem
        · simp [count, hx]
        · refine .inl ⟨List.mem_cons_of_mem _ hmem, fun heq => hdistinct.1 ?_⟩
          rw [hx, ← heq]
          exact List.mem_map_of_mem hmem
      · have hcount : count code (x :: rest) = count code rest := by simp [count, hx]
        simp only [add, if_neg hx, List.mem_cons] at he
        rw [hcount]
        rcases he with rfl | hmem
        · exact .inl ⟨List.mem_cons_self, hx⟩
        · exact (ih hdistinct.2 hmem).imp_left fun h => ⟨List.mem_cons_of_mem _ h.1, h.2⟩

namespace Tells

theorem nil : Tells [] [] := ⟨rfl, .nil, by simp, by simp⟩

theorem mem_iff (h : errors.Tells reports) :
    code ∈ errors.map ErrorEntry.code ↔ ∃ r ∈ reports, r.1 = code := by
  rw [h.codes, List.mem_eraseDups, List.mem_map]

/-- How often a code was reported. -/
theorem count_eq (h : errors.Tells reports) (code : ErrorCode) :
    errors.count code = reports.countP fun r => r.1 = code := by
  unfold count
  cases hfind : errors.find? fun e => e.code = code with
  | some e =>
      have hcode : e.code = code := by simpa using List.find?_some hfind
      have hcount := h.counts e (List.mem_of_find?_eq_some hfind)
      rw [hcode] at hcount
      simpa using hcount
  | none =>
      have hnot : code ∉ errors.map ErrorEntry.code := by
        rw [List.find?_eq_none] at hfind
        rintro hmem
        obtain ⟨e, he, hcode⟩ := List.mem_map.mp hmem
        exact hfind e he (by simpa using hcode)
      rw [h.mem_iff] at hnot
      symm
      rw [Option.map_none, Option.getD_none, List.countP_eq_zero]
      exact fun r hr hcode => hnot ⟨r, hr, by simpa using hcode⟩

/-- Every code in the set was reported. -/
theorem count_pos (h : errors.Tells reports) {e : ErrorEntry} (he : e ∈ errors) : 1 ≤ e.count := by
  obtain ⟨r, hr, hcode⟩ := h.mem_iff.mp (List.mem_map_of_mem he)
  rw [h.counts e he]
  exact List.countP_pos_iff.mpr ⟨r, hr, by simpa using hcode⟩

/-- The set is empty if and only if there was no report. -/
theorem eq_nil_iff (h : errors.Tells reports) : errors = [] ↔ reports = [] := by
  rw [← List.map_eq_nil_iff (f := ErrorEntry.code), List.eq_nil_iff_forall_not_mem,
    List.eq_nil_iff_forall_not_mem]
  constructor
  · exact fun hnone r hr => hnone r.1 (h.mem_iff.mpr ⟨r, hr, rfl⟩)
  · rintro hnone code hcode
    obtain ⟨r, hr, -⟩ := h.mem_iff.mp hcode
    exact hnone r hr

/-- With one more report the set tells of one more. -/
theorem record (h : errors.Tells reports) (code : ErrorCode) (message : String) :
    (errors.record code message).Tells (reports ++ [(code, message)]) := by
  have hmem : code ∈ errors.map ErrorEntry.code ↔ code ∈ reports.map Prod.fst := by
    rw [h.codes, List.mem_eraseDups]
  have hentry : ∀ e ∈ errors.record code message, (e ∈ errors ∧ e.code ≠ code) ∨
      e = ⟨code, errors.count code + 1, message⟩ := fun e he => mem_add h.distinct he
  refine ⟨?_, ?_, fun e he => ?_, fun e he => ?_⟩
  · rw [ErrorSet.record, add_codes, h.codes, List.map_append, List.eraseDups_append, ← h.codes]
    by_cases hcode : code ∈ errors.map ErrorEntry.code
    · rw [if_pos hcode]
      simp [List.removeAll, hmem.mp hcode]
    · have hnew : code ∉ reports.map Prod.fst := fun hold => hcode (hmem.mpr hold)
      rw [if_neg hcode]
      simp [List.removeAll, List.eraseDups_cons, -List.mem_map, hnew]
  · rw [ErrorSet.record, add_codes]
    split
    · exact h.distinct
    · next hcode => exact List.nodup_append.mpr ⟨h.distinct, by simp, by simpa using hcode⟩
  · rw [List.countP_append, List.countP_singleton]
    rcases hentry e he with ⟨hold, hne⟩ | rfl
    · have hne' : ¬code = e.code := fun heq => hne heq.symm
      simpa [hne'] using h.counts e hold
    · simpa using h.count_eq code
  · rw [List.filter_append]
    rcases hentry e he with ⟨hold, hne⟩ | rfl
    · have hne' : ¬code = e.code := fun heq => hne heq.symm
      simpa [hne'] using h.messages e hold
    · simp

theorem recordAll {more : List Occurrence} (h : errors.Tells reports) :
    (errors.recordAll more).Tells (reports ++ more) := by
  induction more generalizing errors reports with
  | nil => exact (List.append_nil reports).symm ▸ h
  | cons r rest ih =>
      have hrest := ih (h.record r.1 r.2)
      rwa [List.append_assoc] at hrest

end Tells

/-- Each set tells of one part of the reports, and no part is empty. -/
def EachTells (sets : List ErrorSet) (parts : List (List Occurrence)) : Prop :=
  List.Forall₂ (fun (errors : ErrorSet) part => part ≠ [] ∧ errors.Tells part) sets parts

namespace EachTells

variable {sets : List ErrorSet} {parts : List (List Occurrence)}

theorem sum_count (h : EachTells sets parts) (code : ErrorCode) :
    (sets.map (count code)).sum = parts.flatten.countP fun r => r.1 = code := by
  induction h with
  | nil => rfl
  | cons hfirst _ ih =>
      rw [List.map_cons, List.sum_cons, ih, hfirst.2.count_eq code, List.flatten_cons,
        List.countP_append]

/-- Sets that tell of something are not empty, have every code once and no code in vain. -/
theorem wellFormed (h : EachTells sets parts) : ∀ errors ∈ sets, errors ≠ [] ∧
    (errors.map ErrorEntry.code).Nodup ∧ ∀ e ∈ errors, 1 ≤ e.count := by
  induction h with
  | nil => simp
  | cons hfirst _ ih =>
      rw [List.forall_mem_cons]
      refine ⟨⟨?_, hfirst.2.distinct, fun e => hfirst.2.count_pos⟩, ih⟩
      exact fun hnil => hfirst.1 (hfirst.2.eq_nil_iff.mp hnil)

end EachTells

end ErrorSet

/-! ### Reports in the log -/

/-- What is reported when a queue gives something up. -/
def Loss.report (loss : Loss) : Occurrence := (Outlet.lossCode loss, Outlet.lossMessage loss)

/-- How often something was lost that is reported with this code. -/
def DeliveryCounters.losses (n : DeliveryCounters) : ErrorCode → Nat
  | .batchOverrun => n.droppedBatches
  | .eventOverrun => n.droppedEvents
  | .acquisitionFault | .configurationIncomplete => 0

namespace DeliveryEvent

/-- The report that an entry tells of, with the number of its stream. -/
def report? : DeliveryEvent → Option (Nat × Occurrence)
  | .received k signal => signal.report?.map (Prod.mk k)
  | .lost k loss => some (k, loss.report)
  | .batch .. | .batchDone .. | .transition .. | .transitionUnclaimed .. | .errors ..
  | .errorsUnclaimed .. | .discarded .. => none

/-- Errors that the event worker took up, whether there was a consumer to call or not. -/
def takenErrors? : DeliveryEvent → Option (Nat × ErrorSet)
  | .errors k _ set => some (k, set)
  | .errorsUnclaimed k set => some (k, set)
  | .received .. | .batch .. | .batchDone .. | .transition .. | .transitionUnclaimed ..
  | .lost .. | .discarded .. => none

/-- Errors that the error consumer was called with. -/
def toldErrors? : DeliveryEvent → Option (Nat × ErrorSet)
  | .errors k _ set => some (k, set)
  | .errorsUnclaimed .. | .received .. | .batch .. | .batchDone .. | .transition ..
  | .transitionUnclaimed .. | .lost .. | .discarded .. => none

theorem stream_of_takenErrors? {event : DeliveryEvent} {p : Nat × ErrorSet}
    (h : event.takenErrors? = some p) : event.stream = p.1 := by
  cases event with
  | errors k consumer set => exact congrArg Prod.fst (Option.some.inj h)
  | errorsUnclaimed k set => exact congrArg Prod.fst (Option.some.inj h)
  | _ => cases h

theorem stream_of_report? {event : DeliveryEvent} {p : Nat × Occurrence} (h : event.report? = some p) :
    event.stream = p.1 := by
  cases event with
  | received k signal =>
      obtain ⟨r, -, rfl⟩ := Option.map_eq_some_iff.mp h
      rfl
  | lost k loss =>
      obtain rfl := Option.some.inj h
      rfl
  | _ => cases h

end DeliveryEvent

namespace Consumers

/-- All reports. -/
def reports (c : Consumers) : List (Nat × Occurrence) := c.log.toList.filterMap DeliveryEvent.report?

/-- All errors that event workers took up. -/
def takenErrors (c : Consumers) : List (Nat × ErrorSet) :=
  c.log.toList.filterMap DeliveryEvent.takenErrors?

/-- All errors that the error consumer was called with. -/
def toldErrors (c : Consumers) : List (Nat × ErrorSet) :=
  c.log.toList.filterMap DeliveryEvent.toldErrors?

variable (c : Consumers) (event : DeliveryEvent)

@[simp] theorem note_reports : (c.note event).reports = c.reports ++ event.report?.toList := by
  cases h : event.report? <;> simp [reports, note, h]

@[simp] theorem note_takenErrors :
    (c.note event).takenErrors = c.takenErrors ++ event.takenErrors?.toList := by
  cases h : event.takenErrors? <;> simp [takenErrors, note, h]

theorem setRegistration_reports (kind : EventKind) (r : Registration String) :
    (c.setRegistration kind r).reports = c.reports ∧
      (c.setRegistration kind r).takenErrors = c.takenErrors := by
  rw [reports, takenErrors, setRegistration_log]
  exact ⟨rfl, rfl⟩

end Consumers

/-- The event worker takes up all errors that have gathered, or leaves them alone. It reports
nothing. -/
theorem Work.takes_errors {c c' : Consumers} {o o' : Outlet} (h : Work (c, o) (c', o')) :
    c'.reports = c.reports ∧ (∀ code, c'.counters.losses code = c.counters.losses code) ∧
      ((c'.takenErrors = c.takenErrors ∧ o'.errors = o.errors) ∨
      (o.closed = false ∧ o.errors ≠ [] ∧ c'.takenErrors = c.takenErrors ++ [(o.stream, o.errors)] ∧
        o'.errors = [])) := by
  cases h with
  | batchBegan _ _ _ =>
      exact ⟨by simp [DeliveryEvent.report?], fun _ => rfl,
        .inl ⟨by simp [DeliveryEvent.takenErrors?], rfl⟩⟩
  | batchEnded _ =>
      refine ⟨(Consumers.note_reports _ _).trans (List.append_nil _), fun code => ?_,
        .inl ⟨(Consumers.note_takenErrors _ _).trans (List.append_nil _), rfl⟩⟩
      cases code <;> rfl
  | eventEnded _ =>
      obtain ⟨hreports, htaken⟩ := Consumers.setRegistration_reports c _ _
      refine ⟨hreports, fun code => ?_, .inl ⟨htaken, rfl⟩⟩
      rw [Consumers.eventDone, Consumers.setRegistration_counters]
  | eventBegan hbegin =>
      obtain ⟨hopen, -, event, remaining, hoffers, -, hcall⟩ := Consumers.beginEvent_takes hbegin
      -- Whether the consumer is called or missed, one entry is added.
      have hnoted : ∃ (c₁ : Consumers) (entry : DeliveryEvent), c' = c₁.note entry ∧ c₁.reports = c.reports ∧
          c₁.takenErrors = c.takenErrors ∧ c₁.counters = c.counters ∧ o'.errors = remaining.errors ∧
          (entry = event.unclaimed o.stream ∨ ∃ consumer, entry = event.called o.stream consumer) := by
        rcases hcall with ⟨-, rfl, rfl⟩ | ⟨consumer, -, rfl, rfl⟩
        · exact ⟨c, _, rfl, rfl, rfl, rfl, rfl, .inl rfl⟩
        · obtain ⟨hreports, htaken⟩ := Consumers.setRegistration_reports c _ _
          exact ⟨_, _, rfl, hreports, htaken, Consumers.setRegistration_counters _ _ _, rfl,
            .inr ⟨consumer, rfl⟩⟩
      obtain ⟨c₁, entry, rfl, hreports, htaken, hcounters, herrors, hentry⟩ := hnoted
      rw [Consumers.note_reports, Consumers.note_takenErrors, hreports, htaken,
        Consumers.note_counters, hcounters, herrors]
      cases hoffers with
      | transition _ =>
          refine ⟨?_, fun _ => rfl, .inl ⟨?_, rfl⟩⟩
          · rcases hentry with rfl | ⟨consumer, rfl⟩ <;> exact List.append_nil _
          · rcases hentry with rfl | ⟨consumer, rfl⟩ <;> exact List.append_nil _
      | errors _ hne =>
          refine ⟨?_, fun _ => rfl, .inr ⟨hopen, hne, ?_, rfl⟩⟩
          · rcases hentry with rfl | ⟨consumer, rfl⟩ <;> exact List.append_nil _
          · rcases hentry with rfl | ⟨consumer, rfl⟩ <;> rfl

/-! ### Publications -/

/-- A publication gathers the report that the signal is, and that of what it displaces. -/
theorem Outlet.publish_errors (o : Outlet) (signal : Signal) :
    (o.publish signal).1.errors = o.errors.recordAll
      (signal.report?.toList ++ ((o.publish signal).2.map Loss.report).toList) := by
  cases signal with
  | batch b =>
      simp only [publish, publishBatch]
      split <;> rfl
  | transition t =>
      simp only [publish, publishTransition]
      split <;> rfl
  | error code message => rfl

namespace Delivery

/-- Stream `k` hands in the first reports, and the second ones are added. -/
structure Gathers (k : Nat) (handed added : List Occurrence) (d d' : Delivery) : Prop where
  reports : d'.reports = d.reports ++ added.map (Prod.mk k)
  taken : d'.takenErrors = d.takenErrors
  /-- Those that were not handed in are reports of losses, which are counted. -/
  losses : ∀ code, d'.counters.losses code + handed.countP (fun r => r.1 = code) =
    d.counters.losses code + added.countP fun r => r.1 = code
  current : ∀ o', d'.current = some o' → ∃ o, d.current = some o ∧ o'.stream = o.stream ∧
    o'.errors = if o.stream = k then o.errors.recordAll added else o.errors

theorem Gathers.trans {k : Nat} {handed handed' added added' : List Occurrence} {d d₁ d' : Delivery}
    (h : Gathers k handed added d d₁) (h' : Gathers k handed' added' d₁ d') :
    Gathers k (handed ++ handed') (added ++ added') d d' where
  reports := by rw [h'.reports, h.reports, List.append_assoc, List.map_append]
  taken := h'.taken.trans h.taken
  losses code := by
    have hfirst := h.losses code
    have hthen := h'.losses code
    rw [List.countP_append, List.countP_append]
    omega
  current o' ho' := by
    obtain ⟨o₁, ho₁, hstream', herrors'⟩ := h'.current o' ho'
    obtain ⟨o, ho, hstream, herrors⟩ := h.current o₁ ho₁
    refine ⟨o, ho, hstream'.trans hstream, ?_⟩
    rw [herrors', herrors, hstream]
    split
    · rw [ErrorSet.recordAll, ErrorSet.recordAll, ErrorSet.recordAll, List.foldl_append]
    · rfl

/-- A loss adds its report and is counted. -/
theorem lose_reports (c : Consumers) (k : Nat) (loss : Option Loss) :
    (c.lose k loss).reports = c.reports ++ (loss.map Loss.report).toList.map (Prod.mk k) ∧
      (c.lose k loss).takenErrors = c.takenErrors ∧
      ∀ code, (c.lose k loss).counters.losses code =
        c.counters.losses code + (loss.map Loss.report).toList.countP fun r => r.1 = code := by
  rcases loss with _ | (b | t)
  · exact ⟨(List.append_nil _).symm, rfl, fun _ => rfl⟩
  · refine ⟨Consumers.note_reports _ _, (Consumers.note_takenErrors _ _).trans (List.append_nil _),
      fun code => ?_⟩
    cases code <;> rfl
  · refine ⟨Consumers.note_reports _ _, (Consumers.note_takenErrors _ _).trans (List.append_nil _),
      fun code => ?_⟩
    cases code <;> rfl

theorem forfeit_reports (c : Consumers) (k : Nat) (signal : Signal) :
    (forfeit c k signal).reports = c.reports ∧ (forfeit c k signal).takenErrors = c.takenErrors ∧
      (forfeit c k signal).counters = c.counters := by
  cases signal with
  | batch b => simp [forfeit, DeliveryEvent.report?, DeliveryEvent.takenErrors?]
  | transition t => simp [forfeit, DeliveryEvent.report?, DeliveryEvent.takenErrors?]
  | error code message => exact ⟨rfl, rfl, rfl⟩

/-- A publication adds the report that the signal is, and that of what it displaces. -/
theorem publish_reports (d : Delivery) (k : Nat) (signal : Signal) :
    ∃ added, Gathers k signal.report?.toList added d (d.publish k signal) := by
  have hreceived : (d.note (.received k signal)).reports =
      d.reports ++ signal.report?.toList.map (Prod.mk k) := by
    rw [Consumers.note_reports, DeliveryEvent.report?, Option.toList_map]
  have htaken : (d.note (.received k signal)).takenErrors = d.takenErrors :=
    (Consumers.note_takenErrors _ _).trans (List.append_nil _)
  -- A signal that comes too late adds its own report only.
  have hlate : ∀ c, d.current = c → (∀ o, c = some o → o.stream ≠ k) →
      Gathers k signal.report?.toList signal.report?.toList d
        ⟨forfeit (d.note (.received k signal)) k signal, c, d.retired⟩ := by
    rintro c rfl hne
    obtain ⟨hreports, htaken', hcounters⟩ := forfeit_reports (d.note (.received k signal)) k signal
    refine ⟨hreports.trans hreceived, htaken'.trans htaken, fun code => ?_, fun o ho => ?_⟩
    · rw [hcounters, Consumers.note_counters]
    · exact ⟨o, ho, rfl, by rw [if_neg (hne o ho)]⟩
  unfold publish
  cases ho : d.current with
  | none => exact ⟨_, hlate none ho (by simp)⟩
  | some o =>
      by_cases hk : o.stream = k
      · simp only [if_pos hk]
        obtain ⟨hreports, htaken', hlosses⟩ :=
          lose_reports (d.note (.received k signal)) k (o.publish signal).2
        refine ⟨signal.report?.toList ++ ((o.publish signal).2.map Loss.report).toList, ?_,
          htaken'.trans htaken, fun code => ?_, fun o' ho' => ?_⟩
        · rw [hreports, hreceived, List.map_append, List.append_assoc]
        · rw [hlosses, List.countP_append, Consumers.note_counters]
          omega
        · refine ⟨o, ho, ?_, ?_⟩
          · rw [← Option.some.inj ho', o.publish_stream]
          · rw [← Option.some.inj ho', o.publish_errors, if_pos hk]
      · simp only [if_neg hk]
        refine ⟨_, hlate (some o) ho fun o' ho' => ?_⟩
        rwa [← Option.some.inj ho']

theorem publishAll_reports (k : Nat) (signals : List Signal) :
    ∀ d : Delivery, ∃ added,
      Gathers k (signals.filterMap Signal.report?) added d (d.publishAll k signals) := by
  induction signals with
  | nil =>
      refine fun d => ⟨[], (List.append_nil _).symm, rfl, fun _ => rfl, fun o ho => ⟨o, ho, rfl, ?_⟩⟩
      exact (ite_self _).symm
  | cons s rest ih =>
      intro d
      obtain ⟨first, hfirst⟩ := d.publish_reports k s
      obtain ⟨more, hmore⟩ := ih (d.publish k s)
      have hhanded : (s :: rest).filterMap Signal.report? =
          s.report?.toList ++ rest.filterMap Signal.report? := by
        cases hs : s.report? <;> simp [hs]
      rw [hhanded]
      exact ⟨first ++ more, hfirst.trans hmore⟩

/-- A stop reports nothing. -/
theorem closeStream_reports (d : Delivery) :
    d.closeStream.reports = d.reports ∧ d.closeStream.takenErrors = d.takenErrors ∧
      d.closeStream.counters = d.counters := by
  cases ho : d.current with
  | none => exact ⟨by simp only [closeStream, ho], by simp only [closeStream, ho],
      by simp only [closeStream, ho]⟩
  | some o =>
      rw [closeStream_eq ho]
      exact ⟨(Consumers.note_reports _ _).trans (List.append_nil _),
        (Consumers.note_takenErrors _ _).trans (List.append_nil _), rfl⟩

/-! ### The delivery side -/

/-- The reports of a stream. -/
def reportsOf (d : Delivery) (k : Nat) : List Occurrence := ofStream k d.reports

/-- The errors of a stream that its event worker took up. -/
def takenErrorsOf (d : Delivery) (k : Nat) : List ErrorSet := ofStream k d.takenErrors

/-- The errors of a stream that the error consumer was called with. -/
def toldErrorsOf (d : Delivery) (k : Nat) : List ErrorSet := ofStream k d.toldErrors

/-- The reports of a stream fall into parts. The errors that were taken up tell of one part
after the other, and those that gather in the outlet tell of the rest. -/
def Tells (k : Nat) (d : Delivery) : Prop :=
  ∃ parts rest, d.reportsOf k = parts.flatten ++ rest ∧
    ErrorSet.EachTells (d.takenErrorsOf k) parts ∧
    ∀ o, d.current = some o → o.stream = k → o.errors.Tells rest

variable {d d' : Delivery} {n k : Nat}

/-- Where nothing is reported or taken up the law stays. -/
theorem Tells.of_frame (h : d.Tells k) (hreports : d'.reports = d.reports)
    (htaken : d'.takenErrors = d.takenErrors)
    (hcurrent : ∀ o', d'.current = some o' → ∃ o, d.current = some o ∧ o'.stream = o.stream ∧
      o'.errors = o.errors) : d'.Tells k := by
  obtain ⟨parts, rest, hparts, htold, hrest⟩ := h
  refine ⟨parts, rest, ?_, ?_, fun o' ho' hk => ?_⟩
  · rw [reportsOf, hreports, ← reportsOf, hparts]
  · rw [takenErrorsOf, htaken, ← takenErrorsOf]
    exact htold
  · obtain ⟨o, ho, hstream, herrors⟩ := hcurrent o' ho'
    rw [herrors]
    exact hrest o ho (hstream.symm.trans hk)

/-- What a stream reports joins the rest. -/
theorem Tells.gathers {j : Nat} {handed added : List Occurrence} (h : d.Tells k)
    (hg : Gathers j handed added d d') : d'.Tells k := by
  obtain ⟨parts, rest, hparts, htold, hrest⟩ := h
  have htaken : d'.takenErrorsOf k = d.takenErrorsOf k := by
    rw [takenErrorsOf, hg.taken, ← takenErrorsOf]
  by_cases hj : j = k
  · refine ⟨parts, rest ++ added, ?_, htaken ▸ htold, fun o' ho' hk => ?_⟩
    · rw [reportsOf, hg.reports, ofStream_append, ofStream_map_mk, if_pos hj, ← reportsOf, hparts,
        List.append_assoc]
    · obtain ⟨o, ho, hstream, herrors⟩ := hg.current o' ho'
      have hk' : o.stream = k := hstream.symm.trans hk
      rw [herrors, if_pos (hk'.trans hj.symm)]
      exact (hrest o ho hk').recordAll
  · refine ⟨parts, rest, ?_, htaken ▸ htold, fun o' ho' hk => ?_⟩
    · rw [reportsOf, hg.reports, ofStream_append, ofStream_map_mk, if_neg hj, List.append_nil,
        ← reportsOf, hparts]
    · obtain ⟨o, ho, hstream, herrors⟩ := hg.current o' ho'
      have hk' : o.stream = k := hstream.symm.trans hk
      rw [herrors, if_neg fun heq => hj (heq.symm.trans hk')]
      exact hrest o ho hk'

/-- The event worker takes up the rest, which makes one more part. -/
theorem Tells.worked {o o' : Outlet} {c' : Consumers} (h : d.Tells k) (ho : d.current = some o)
    (hwork : Work (d.toConsumers, o) (c', o')) :
    Tells k { d with toConsumers := c', current := some o' } := by
  have hstream : o'.stream = o.stream := hwork.closed_eq.2
  obtain ⟨hreports, -, ⟨htaken, herrors⟩ | ⟨-, hne, htaken, herrors⟩⟩ := hwork.takes_errors
  · refine h.of_frame hreports htaken fun x hx => ⟨o, ho, ?_⟩
    rw [← Option.some.inj hx]
    exact ⟨hstream, herrors⟩
  · obtain ⟨parts, rest, hparts, htold, hrest⟩ := h
    have hreports' : ofStream k c'.reports = parts.flatten ++ rest := by rw [hreports]; exact hparts
    by_cases hk : o.stream = k
    · have htells := hrest o ho hk
      have hlast : rest ≠ [] := fun heq => hne (htells.eq_nil_iff.mpr heq)
      refine ⟨parts ++ [rest], [], ?_, ?_, fun x hx _ => ?_⟩
      · rw [List.flatten_append, List.append_nil]
        simpa [reportsOf] using hreports'
      · rw [takenErrorsOf, htaken, ofStream_append, ofStream_singleton, if_pos hk]
        exact List.rel_append htold (.cons ⟨hlast, htells⟩ .nil)
      · rw [← Option.some.inj hx, herrors]
        exact .nil
    · refine ⟨parts, rest, hreports', ?_, fun x hx hk' => ?_⟩
      · rw [takenErrorsOf, htaken, ofStream_append, ofStream_singleton, if_neg hk, List.append_nil]
        exact htold
      · rw [← Option.some.inj hx, hstream] at hk'
        exact absurd hk' hk

theorem Turn.tells (h : Turn d d') (ht : d.Tidy) (hk : d.Tells k) : d'.Tells k := by
  have hsame : ∀ o', d.current = some o' → ∃ o, d.current = some o ∧ o'.stream = o.stream ∧
      o'.errors = o.errors := fun o ho => ⟨o, ho, rfl, rfl⟩
  cases h with
  | worked ho hwork => exact hk.worked ho hwork
  | @workedRetired before after o o' c' hr hwork =>
      -- A retired outlet is closed, and so nothing is taken up.
      have hclosed := (ht.retired o (by rw [hr]; exact List.mem_append_right _ List.mem_cons_self)).1
      obtain ⟨hreports, -, ⟨htaken, -⟩ | ⟨hopen, -⟩⟩ := hwork.takes_errors
      · exact hk.of_frame hreports htaken hsame
      · rw [hclosed] at hopen
        cases hopen
  | letGo _ _ => exact hk.of_frame rfl rfl hsame
  | registered kind consumer =>
      obtain ⟨hreports, htaken⟩ := Consumers.setRegistration_reports d.toConsumers kind _
      exact hk.of_frame hreports htaken hsame
  | held kind on => exact hk.of_frame rfl rfl hsame

/-- A stream with a new number has not reported anything. -/
theorem Numbered.fresh (hd : d.Numbered n) (hk : n < k) :
    d.reportsOf k = [] ∧ d.takenErrorsOf k = [] := by
  constructor
  · refine ofStream_eq_nil _ fun p hp => ?_
    obtain ⟨event, hevent, heq⟩ := List.mem_filterMap.mp hp
    have hle := hd.log event hevent
    rw [DeliveryEvent.stream_of_report? heq] at hle
    omega
  · refine ofStream_eq_nil _ fun p hp => ?_
    obtain ⟨event, hevent, heq⟩ := List.mem_filterMap.mp hp
    have hle := hd.log event hevent
    rw [DeliveryEvent.stream_of_takenErrors? heq] at hle
    omega

/-- Every change keeps the law for all streams. -/
theorem Change.tells (h : Change n d d') (ht : d.Tidy) (hd : ∀ k, d.Tells k) : ∀ k, d'.Tells k := by
  intro k
  cases h with
  | turned hturn => exact hturn.tells ht (hd k)
  | @received j signal _ =>
      obtain ⟨added, hgathers⟩ := d.publish_reports j signal
      exact (hd k).gathers hgathers
  | @opened m j capacity hnone hnumbered hm _ =>
      by_cases hj : j = k
      · obtain ⟨hreports, htaken⟩ := hnumbered.fresh (hj ▸ hm)
        refine ⟨[], [], hreports, ?_, fun o ho _ => ?_⟩
        · rw [show (d.openStream j capacity).takenErrorsOf k = [] from htaken]
          exact .nil
        · rw [← Option.some.inj ho]
          exact .nil
      · obtain ⟨parts, rest, hparts, htold, -⟩ := hd k
        refine ⟨parts, rest, hparts, htold, fun o ho hk => ?_⟩
        rw [← Option.some.inj ho] at hk
        exact absurd hk hj
  | closed _ =>
      obtain ⟨hreports, htaken, -⟩ := d.closeStream_reports
      refine (hd k).of_frame hreports htaken fun o ho => ?_
      rw [closeStream_current] at ho
      cases ho

end Delivery

end QuadDaq

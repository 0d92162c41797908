import QuadDaq.Proofs.Delivery.Reports
import QuadDaq.Proofs.Driver.Engines
import QuadDaq.Proofs.Driver.Events
import QuadDaq.Proofs.Driver.Lifecycle
import QuadDaq.Proofs.Driver.Presses
import QuadDaq.Proofs.Driver.Separation
import QuadDaq.Proofs.Stream.Reports

/-!
# The error consumer is told in full

**What a stream reports is what the statistics count, and the error consumer is told of all
of it** (`errors_told_in_full`): of every code as often as it was counted, in sets that are
never empty and have every code once. This holds between any two steps of the threads, so it
does not matter how reports and deliveries follow each other.

* What a driver does in one go adds to the statistics what it adds to the reports, unless it
  starts another stream (`Slice.countsReports`). Moves leave open what becomes of the counters,
  so this is about slices.
* That somebody is there to be told is a matter of the error consumer, which must not be inside
  a call of an earlier stream. It is a matter of the delivery side alone, and holds along all
  moves (`moves_heard`).
-/

namespace QuadDaq

open Relation (ReflTransGen)

/-- No consumer of this kind was missed for the stream. -/
def Consumers.Heard (kind : EventKind) (k : Nat) (c : Consumers) : Prop :=
  ∀ event ∈ c.callsOf k, event.missed? ≠ some kind

theorem Consumers.Heard.claims {kind : EventKind} {k : Nat} {c c' : Consumers} (h : c.Heard kind k)
    (hclaims : Claims kind c c') : c'.Heard kind k := by
  obtain ⟨added, hlog, hadded⟩ := hclaims
  intro event hevent
  rw [callsOf, hlog, List.filter_append, ← callsOf, List.mem_append] at hevent
  rcases hevent with hold | hnew
  · exact h event hold
  · exact hadded event (List.mem_of_mem_filter hnew)

/-- What was taken up for a stream for which nobody was missed, the error consumer was called
with. -/
theorem Consumers.Heard.toldErrors {k : Nat} {c : Consumers} (h : c.Heard .error k) :
    ofStream k c.toldErrors = ofStream k c.takenErrors := by
  unfold Consumers.toldErrors Consumers.takenErrors
  have hall : ∀ event ∈ c.log.toList, event.stream = k → event.missed? ≠ some .error := by
    intro event hevent hstream hmissed
    refine h event ?_ hmissed
    have hcall : event.isCall = true := by
      cases event <;> simp_all [DeliveryEvent.missed?, DeliveryEvent.isCall]
    simp [callsOf, hevent, hcall, hstream]
  generalize c.log.toList = log at hall
  induction log with
  | nil => rfl
  | cons event rest ih =>
      have hrest := ih fun e he => hall e (List.mem_cons_of_mem _ he)
      have hfirst := hall event List.mem_cons_self
      have hsplit : ∀ give : DeliveryEvent → Option (Nat × ErrorSet),
          ofStream k ((event :: rest).filterMap give) =
            ofStream k (give event).toList ++ ofStream k (rest.filterMap give) := by
        intro give
        cases hgive : give event <;> simp [hgive, ← ofStream_append]
      rw [hsplit, hsplit, hrest]
      congr 1
      cases event with
      | errorsUnclaimed j errors =>
          have hj : j ≠ k := fun heq => hfirst heq rfl
          simp [DeliveryEvent.toldErrors?, DeliveryEvent.takenErrors?, hj]
      | _ => rfl

namespace Delivery

variable {d d' : Delivery}

/-- Whatever workers do, nobody is missed for a stream that has ended. -/
theorem Ended.turn_heard {kind : EventKind} {k : Nat} (h : d.Ended k) (ht : d.Tidy)
    (hturn : Turn d d') (hheard : d.Heard kind k) : d'.Heard kind k := by
  cases hturn with
  | worked ho hwork =>
      intro event hevent
      rw [show _ = _ from works_elsewhere (.single hwork) (h _ ho)] at hevent
      exact hheard event hevent
  | @workedRetired before after o o' c' hr hwork =>
      have hclosed : o.closed = true :=
        (ht.retired o (by rw [hr]; exact List.mem_append_right _ List.mem_cons_self)).1
      exact hheard.claims (hwork.claims (.inr (.inl hclosed)))
  | letGo _ _ => exact hheard
  | registered _ _ => exact hheard.claims (.of_log (Consumers.setRegistration_log _ _ _))
  | held _ _ => exact hheard

/-- Workers and consumers report nothing. -/
theorem Turn.reports (h : Turn d d') :
    d'.reports = d.reports ∧ ∀ code, d'.counters.losses code = d.counters.losses code := by
  cases h with
  | worked _ hwork => exact ⟨hwork.takes_errors.1, hwork.takes_errors.2.1⟩
  | workedRetired _ hwork => exact ⟨hwork.takes_errors.1, hwork.takes_errors.2.1⟩
  | letGo _ _ => exact ⟨rfl, fun _ => rfl⟩
  | registered kind consumer =>
      refine ⟨(Consumers.setRegistration_reports d.toConsumers kind _).1, fun code => ?_⟩
      exact congrArg (DeliveryCounters.losses · code) (Consumers.setRegistration_counters _ _ _)
  | held kind on => exact ⟨rfl, fun _ => rfl⟩

theorem turns_reports (h : ReflTransGen Turn d d') :
    d'.reports = d.reports ∧ ∀ code, d'.counters.losses code = d.counters.losses code := by
  induction h with
  | refl => exact ⟨rfl, fun _ => rfl⟩
  | tail _ hturn ih =>
      obtain ⟨hreports, hlosses⟩ := hturn.reports
      exact ⟨hreports.trans ih.1, fun code => (hlosses code).trans (ih.2 code)⟩

end Delivery

namespace Driver

variable {β : Type} {d d' : Driver β} {k : Nat}

/-- What the statistics say about a code. Failures to route the bridge have no counter, so they
are counted on the board. -/
def statistic (d : Driver β) : ErrorCode → Nat
  | .configurationIncomplete => d.engine.counters.incomplete
  | .acquisitionFault => d.engine.counters.faults + d.engine.failedSelects
  | .batchOverrun => d.delivery.counters.droppedBatches
  | .eventOverrun => d.delivery.counters.droppedEvents

/-- One part of the statistics is about the sampling side, the other about the delivery side. -/
theorem statistic_eq (d : Driver β) (code : ErrorCode) :
    d.statistic code = d.engine.occasions code + d.delivery.counters.losses code := by
  cases code <;> simp [statistic, Engine.occasions, DeliveryCounters.losses]

/-! ### Reports are counted -/

/-- From one state to a later one the statistics grow by the reports of the stream. -/
def CountsReports (k : Nat) (d d' : Driver β) : Prop :=
  ∀ code, d'.statistic code + (d.delivery.reportsOf k).countP (fun r => r.1 = code) =
    d.statistic code + (d'.delivery.reportsOf k).countP fun r => r.1 = code

namespace CountsReports

theorem trans {d₁ : Driver β} (h : CountsReports k d d₁) (h' : CountsReports k d₁ d') :
    CountsReports k d d' := by
  intro code
  have hfirst := h code
  have hthen := h' code
  omega

theorem of_frame (hoccasions : ∀ code, d'.engine.occasions code = d.engine.occasions code)
    (hreports : d'.delivery.reports = d.delivery.reports)
    (hlosses : ∀ code, d'.delivery.counters.losses code = d.delivery.counters.losses code) :
    CountsReports k d d' := by
  intro code
  rw [statistic_eq, statistic_eq, hoccasions, hlosses, Delivery.reportsOf, Delivery.reportsOf,
    hreports]

theorem turns {delivery' : Delivery} (h : ReflTransGen Delivery.Turn d.delivery delivery') :
    CountsReports k d { d with delivery := delivery' } :=
  .of_frame (fun _ => rfl) (Delivery.turns_reports h).1 (Delivery.turns_reports h).2

/-- What half a tick counts it hands in, and what this displaces is counted as well. -/
theorem handedIn {e' : Engine β} {signals : List Signal}
    (h : ∀ code, e'.occasions code = d.engine.occasions code +
      (signals.filterMap Signal.report?).countP fun r => r.1 = code) :
    CountsReports k d
      { d with engine := e', delivery := d.delivery.publishAll k signals } := by
  obtain ⟨added, hgathers⟩ := d.delivery.publishAll_reports k signals
  intro code
  have hlosses := hgathers.losses code
  rw [statistic_eq, statistic_eq, h, Delivery.reportsOf, Delivery.reportsOf, hgathers.reports,
    ofStream_append, ofStream_map_mk, if_pos rfl, List.countP_append]
  dsimp only
  omega

end CountsReports

variable [Board β]

theorem begun_countsReports (d : Driver β) {run : Run} (hk : run.stream = k) (lag : Duration) :
    CountsReports k d (d.begun run lag) := by
  subst hk
  exact .handedIn (d.engine.beginTick_occasions run lag)

omit [Board β] in
theorem deliver_countsReports (d : Driver β) : CountsReports k d d.deliver :=
  .turns (Delivery.deliver_turns d.delivery)

theorem ended_countsReports (d : Driver β) {run : Run} (hk : run.stream = k) (tick : OpenTick) :
    CountsReports k d (d.ended run tick) := by
  subst hk
  exact .handedIn (d.engine.endTick_occasions run tick)

theorem completeTick_countsReports (d : Driver β) {run : Run} (hk : run.stream = k)
    (tick : OpenTick) : CountsReports k d (d.completeTick run tick) :=
  (ended_countsReports d hk tick).trans (deliver_countsReports _)

/-- A command adds to the statistics what it adds to the reports of the stream that runs, unless
it starts another one. -/
theorem step_countsReports (hk : ∀ run, d.engine.run = some run → run.stream = k)
    (command : Command β)
    (hattempts : (d.step command).1.engine.attempts = d.engine.attempts) :
    CountsReports k d (d.step command).1 := by
  have hsame : ∀ {d' : Driver β}, (∀ code, d'.engine.occasions code = d.engine.occasions code) →
      d'.delivery = d.delivery → CountsReports k d d' := by
    intro d' hoccasions hdelivery
    exact .of_frame hoccasions (by rw [hdelivery]) fun _ => by rw [hdelivery]
  cases command with
  | start =>
      -- A start that is no attempt is refused outright.
      have hphase : d.engine.phase ≠ .stopped := by
        intro hphase
        rw [step, d.start_engine.1, Engine.start_attempts hphase] at hattempts
        omega
      rw [step, start_of_ne hphase]
      exact hsame (fun _ => rfl) rfl
  | stop =>
      have hoccasions : ∀ code, d.stop.1.engine.occasions code = d.engine.occasions code := by
        intro code
        rw [d.stop_engine.1, d.engine.stop_occasions]
      rcases d.stop_delivery_cases with heq | heq
      · exact hsame hoccasions heq
      · refine .of_frame hoccasions ?_ fun code => ?_
        · rw [step, heq, d.delivery.closeStream_reports.1]
        · rw [step, heq, d.delivery.closeStream_reports.2.2]
  | tick lag =>
      simp only [step]
      rcases d.tick_cases lag with ⟨-, heq⟩ | ⟨run, run', tick, -, hrun, -, hstream, -, -, heq⟩
      · rw [heq]
        exact hsame (fun _ => rfl) rfl
      · have hbegun : CountsReports k d (d.begun run lag) :=
          begun_countsReports d (hk run hrun) lag
        rw [heq]
        split
        · exact hbegun.trans (deliver_countsReports _)
        · exact hbegun.trans (completeTick_countsReports _ (hstream.trans (hk run hrun)) tick)
  | releaseRead =>
      simp only [step]
      rcases d.releaseRead_cases with ⟨run, tick, hrun, -, heq⟩ | ⟨-, heq⟩
      · have hheld : CountsReports k d { d with readHeld := false } := hsame (fun _ => rfl) rfl
        rw [heq]
        exact hheld.trans (completeTick_countsReports _ (hk run hrun) tick)
      · rw [heq]
        exact hsame (fun _ => rfl) rfl
  | register kind consumer =>
      simp only [step, register]
      split
      · exact hsame (fun _ => rfl) rfl
      · exact .turns (.single (.registered d.delivery kind consumer))
  | configure command =>
      simp only [step, configure, Engine.configure]
      split <;> exact hsame (Engine.occasions_congr rfl rfl) rfl
  | hold kind => exact .turns (.single (.held d.delivery kind true))
  | unhold kind => exact .turns (.single (.held d.delivery kind false))
  | release kind => exact .turns (Delivery.release_turns d.delivery kind)
  | finish stream kind => exact .turns (Delivery.finish_turns d.delivery stream kind)
  | holdRead => exact hsame (fun _ => rfl) rfl
  | disturb change => exact hsame (Engine.occasions_congr rfl rfl) rfl

omit [Board β] in
/-- The stream that runs began before, unless a start was attempted since. -/
theorem run_stream_of_changes {e e' : Engine β} (h : ReflTransGen Engine.Change e e')
    (hattempts : e'.attempts = e.attempts) {run' : Run} (hrun' : e'.run = some run') :
    ∃ run, e.run = some run ∧ run'.stream = run.stream := by
  induction h generalizing run' with
  | refl => exact ⟨run', hrun', rfl⟩
  | tail hbefore hchange ih =>
      have hfirst := attempts_le_of_changes hbefore
      have hlast := hchange.attempts_le
      rcases hchange.run_stream hrun' with ⟨run₁, hrun₁, hstream⟩ | ⟨-, hnew⟩
      · obtain ⟨run, hrun, hstream'⟩ := ih (by omega) hrun₁
        exact ⟨run, hrun, hstream.trans hstream'⟩
      · omega

/-- So does whatever a driver does in one go. -/
theorem Slice.countsReports (h : Slice d d')
    (hk : ∀ run, d.engine.run = some run → run.stream = k)
    (hattempts : d'.engine.attempts = d.engine.attempts) : CountsReports k d d' := by
  cases h with
  | commanded command => exact step_countsReports hk command hattempts
  | begun lag _ hrun => exact begun_countsReports d (hk _ hrun) lag
  | ended hrun _ => exact ended_countsReports d (hk _ hrun) _
  | turned hturn => exact .turns (.single hturn)

/-- As long as no other start is attempted, the statistics grow by the reports of the stream. -/
theorem slices_countsReports (h : ReflTransGen Slice d d') (hl : d.Linked)
    (hk : ∀ run, d.engine.run = some run → run.stream = k)
    (hattempts : d'.engine.attempts = d.engine.attempts) : CountsReports k d d' := by
  induction h with
  | refl => exact fun _ => rfl
  | @tail d₁ d₂ hslices hslice ih =>
      have hmoves := slices_moves hslices hl
      have hchanges := moves_changes hmoves
      have hfirst := attempts_le_of_changes hchanges
      have hthen := attempts_le_of_changes
        (moves_changes (hslice.moves (moves_linked hmoves hl)))
      have hsame : d₁.engine.attempts = d.engine.attempts := by omega
      refine (ih hsame).trans (hslice.countsReports (fun run' hrun' => ?_) (by omega))
      obtain ⟨run, hrun, hstream⟩ := run_stream_of_changes hchanges hsame hrun'
      exact hstream.trans (hk run hrun)

/-! ### The error consumer hears of them -/

omit [Board β] in
/-- Once a consumer is free, or the stream has ended, no move misses it for the stream. -/
theorem Move.heard {stops : Bool} {kind : EventKind} (h : Move stops d d') (hd : d.Sound)
    (hk : k ≤ d.engine.attempts) (hheard : d.delivery.Heard kind k)
    (hsafe : d.delivery.Free kind ∨ d.delivery.Ended k) :
    d'.delivery.Heard kind k ∧ (d'.delivery.Free kind ∨ d'.delivery.Ended k) := by
  rcases hsafe with hfree | hended
  · obtain ⟨hclaims, hstays⟩ := h.free hd hfree
    refine ⟨hheard.claims hclaims, hstays.imp_right fun hstopped o ho => ?_⟩
    rw [hstopped.2] at ho
    cases ho
  · refine ⟨?_, .inr (h.ended hd hk hended).1⟩
    have hquiet : ∀ {v : Delivery}, v.Ended k ∧ v.trafficOf k = d.delivery.trafficOf k →
        v.Heard kind k := by
      intro v hv event hevent
      rw [show v.callsOf k = d.delivery.callsOf k from congrArg Traffic.calls hv.2] at hevent
      exact hheard event hevent
    cases h with
    | aside _ _ _ _ => exact hheard
    | readHeld _ => exact hheard
    | started _ _ _ => exact hquiet (hended.openStream (by omega) _)
    | stopped _ _ _ _ _ => exact hquiet (d.delivery.closeStream_traffic k)
    | ticked _ _ => exact hquiet (hended.publishAll _ _)
    | turned hturn => exact hended.turn_heard hd.delivery.tidy hturn hheard

omit [Board β] in
theorem moves_heard {stops : Bool} {kind : EventKind} (h : ReflTransGen (Move stops) d d')
    (hd : d.Sound) (hk : k ≤ d.engine.attempts) (hheard : d.delivery.Heard kind k)
    (hsafe : d.delivery.Free kind ∨ d.delivery.Ended k) : d'.delivery.Heard kind k := by
  refine (moves_induction (P := fun d => k ≤ d.engine.attempts ∧ d.delivery.Heard kind k ∧
    (d.delivery.Free kind ∨ d.delivery.Ended k)) ?_ h hd ⟨hk, hheard, hsafe⟩).2.2.1
  rintro d₁ d₂ hd₁ hmove ⟨hk₁, hheard₁, hsafe₁⟩
  exact ⟨Nat.le_trans hk₁ (attempts_le_of_changes hmove.engine_changes),
    hmove.heard hd₁ hk₁ hheard₁ hsafe₁⟩

omit [Board β] in
/-- What was taken up and what has gathered are all reports, whatever happens. -/
theorem moves_tells {stops : Bool} (h : ReflTransGen (Move stops) d d') (hd : d.Sound)
    (htells : ∀ k, d.delivery.Tells k) : ∀ k, d'.delivery.Tells k := by
  refine (moves_induction (P := fun d => ∀ k, d.delivery.Tells k) ?_ h hd htells).2
  intro d₁ d₂ hd₁ hmove
  exact hmove.preserves (P := fun v => ∀ k, v.Tells k)
    (fun _ _ _ hv hchange => hchange.tells hv.tidy) hd₁

/-! ### Main result -/

theorem Reachable.tells (hd : d.Reachable) : ∀ k, d.delivery.Tells k :=
  hd.delivery_induction (P := fun v => ∀ k, v.Tells k) (fun _ => ⟨[], [], rfl, .nil, by simp⟩)
    (fun _ _ _ hv hchange => hchange.tells hv.tidy)

/-- A stream that has just been started is the latest one, has reported nothing, and misses
nobody. -/
theorem start_fresh (hd : d.Sound) (hstart : d.start.2 = .done) :
    d.start.1.engine.attempts = d.nextStream ∧
      (∀ run, d.start.1.engine.run = some run → run.stream = d.nextStream) ∧
      d.start.1.delivery.reportsOf d.nextStream = [] ∧
      ∀ kind, d.start.1.delivery.Heard kind d.nextStream := by
  obtain ⟨-, -, board, log, -, heq⟩ := start_eq_of_done hstart
  rw [heq]
  refine ⟨rfl, fun run hrun => ?_, (hd.deliveryNumbered.fresh (Nat.lt_succ_self _)).1,
    fun kind event hevent => ?_⟩
  · rw [← Option.some.inj hrun]
    rfl
  · -- Nothing is logged about a number that was not given yet.
    have hmem : event ∈ d.delivery.callsOf d.nextStream := hevent
    obtain ⟨hlog, hcall⟩ := List.mem_filter.mp hmem
    have hle := hd.deliveryNumbered.log event hlog
    simp only [Bool.and_eq_true, beq_iff_eq, nextStream] at hcall
    omega

omit [Board β] in
/-- The error consumer is told of all errors of stream `k`. The last argument is what has gathered
since the consumer was called last. -/
structure TellsErrors (k : Nat) (d : Driver β) (gathered : ErrorSet) : Prop where
  gathers : ∀ o, d.delivery.current = some o → o.stream = k → o.errors = gathered
  /-- Code by code, what was told and what has gathered are all reports. -/
  complete : ∀ code, ((d.delivery.toldErrorsOf k).map (ErrorSet.count code)).sum +
    gathered.count code = (d.delivery.reportsOf k).countP fun r => r.1 = code
  /-- Every call told of the reports since the call before, in order and each with its latest
  message. -/
  told : ∃ parts rest, d.delivery.reportsOf k = parts.flatten ++ rest ∧
    ErrorSet.EachTells (d.delivery.toldErrorsOf k) parts ∧ gathered.Tells rest
  wellFormed : ∀ errors ∈ d.delivery.toldErrorsOf k,
    errors ≠ [] ∧ (errors.map ErrorEntry.code).Nodup ∧ ∀ e ∈ errors, 1 ≤ e.count

omit [Board β] in
/-- It is told of what the statistics count. The stream was started in `since`. -/
structure TellsStatistics (k : Nat) (since d : Driver β) (gathered : ErrorSet) : Prop
    extends TellsErrors k d gathered where
  /-- Until another start is attempted, the statistics have grown by the reports. -/
  statistics : d.engine.attempts = k → ∀ code, d.statistic code =
    since.statistic code + (d.delivery.reportsOf k).countP fun r => r.1 = code

/-- Along all moves the error consumer is told of the errors of a stream. -/
theorem moves_tellErrors (hd : d.Reachable) (hstart : d.start.2 = .done)
    (hregistered : d.delivery.Registered .error) (hfree : ¬d.delivery.Detained .error)
    (hmoves : ReflTransGen (Move true) d.start.1 d') :
    ∃ gathered, TellsErrors d.nextStream d' gathered := by
  have hs := hd.sound
  obtain ⟨hattempts, -, -, hheard⟩ := start_fresh hs hstart
  have hf : d.delivery.Free .error := ⟨hd.attended, hs.delivery.tidy, hregistered, hfree⟩
  have hf' : d.start.1.delivery.Free .error := (step_claims hs hf .start).2 rfl
  have htold : d'.delivery.toldErrorsOf d.nextStream = d'.delivery.takenErrorsOf d.nextStream :=
    (moves_heard hmoves (start_sound hs) (Nat.le_of_eq hattempts.symm) (hheard .error)
      (.inl hf')).toldErrors
  obtain ⟨parts, rest, hparts, heach, hrest⟩ :=
    moves_tells hmoves (start_sound hs) (hd.after [.start]).tells d.nextStream
  rw [← htold] at heach
  obtain ⟨gathered, hgathers, htells⟩ : ∃ gathered : ErrorSet, (∀ o,
      d'.delivery.current = some o → o.stream = d.nextStream → o.errors = gathered) ∧
        gathered.Tells rest := by
    by_cases hcurrent : d'.delivery.Ended d.nextStream
    · exact ⟨_, fun o ho hk => absurd hk (hcurrent o ho), ErrorSet.Tells.nil.recordAll⟩
    · simp only [Delivery.Ended, not_forall, not_not] at hcurrent
      obtain ⟨o, ho, hk⟩ := hcurrent
      refine ⟨o.errors, fun o' ho' _ => ?_, hrest o ho hk⟩
      rw [Option.some.inj (ho.symm.trans ho')]
  refine ⟨gathered, hgathers, fun code => ?_, ⟨parts, rest, hparts, heach, htells⟩,
    heach.wellFormed⟩
  rw [heach.sum_count, htells.count_eq, hparts, List.countP_append]

/-- If an error consumer is registered and not inside a call of an earlier stream, it is told of
all errors of a stream, whatever happens while and after the stream runs and however far the
workers get meanwhile. Whatever its threads do in which order, as after any commands
(`slices_after`), these errors are those that the statistics count. -/
theorem errors_told_in_full (hd : d.Reachable) (hstart : d.start.2 = .done)
    (hregistered : d.delivery.Registered .error) (hfree : ¬d.delivery.Detained .error) :
    (∀ d', ReflTransGen (Move true) d.start.1 d' →
      ∃ gathered, TellsErrors d.nextStream d' gathered) ∧
    ∀ d', ReflTransGen Slice d.start.1 d' →
      ∃ gathered, TellsStatistics d.nextStream d.start.1 d' gathered := by
  refine ⟨fun d' => moves_tellErrors hd hstart hregistered hfree, fun d' hslices => ?_⟩
  have hl := (start_sound hd.sound).toLinked
  obtain ⟨gathered, htells⟩ :=
    moves_tellErrors hd hstart hregistered hfree (slices_moves hslices hl)
  refine ⟨gathered, htells, fun hlatest code => ?_⟩
  obtain ⟨hattempts, hrun, hreports, -⟩ := start_fresh hd.sound hstart
  have hcounts := slices_countsReports hslices hl hrun (hlatest.trans hattempts.symm) code
  rwa [hreports, List.countP_nil, Nat.add_zero] at hcounts

/-- A driver whose error consumer is registered. -/
def watched : Driver Rig.RiggedBoard := (pressingDriver []).after [.register .error "watch"]

/-- Rows that cannot be calibrated, and a bridge that is not routed, while the error consumer is
inside a call. -/
def mishaps : List (Command Rig.RiggedBoard) :=
  [.hold .error,
    .disturb fun b =>
      { b with inner := .scripted { last := some (.uniform 0.0) }, selectFaults := [.timeout] },
    .tick 0, .tick 0, .tick 0, .configure (.setBridge 1), .tick 0, .release .error, .tick 0]

/-- The last part is about a tick that has failed before any worker gets its turn. -/
theorem errors_told_in_full_watched :
    watched.start.2 = .done ∧ watched.delivery.Registered .error ∧
      ¬watched.delivery.Detained .error ∧
      ((watched.start.1.after mishaps).delivery.toldErrorsOf 1).map
          (·.map fun e => (e.code, e.count)) =
        [[(.configurationIncomplete, 1)], [(.configurationIncomplete, 1), (.acquisitionFault, 1)]] ∧
      (∃ gathered, TellsStatistics 1 watched.start.1 (watched.start.1.after mishaps) gathered) ∧
      ∃ d', ReflTransGen Slice watched.start.1 d' ∧ d'.delivery.toldErrorsOf 1 = [] ∧
        (d'.delivery.reportsOf 1).map Prod.fst = [.acquisitionFault] ∧
        ∃ gathered, TellsStatistics 1 watched.start.1 d' gathered := by
  have hstart : watched.start.2 = .done := by decide
  have hregistered : watched.delivery.Registered .error := by
    unfold Delivery.Registered
    decide
  have hfree : ¬watched.delivery.Detained .error := by
    rintro ⟨o, ho, -⟩
    rw [show watched.delivery.retired = [] from rfl] at ho
    cases ho
  obtain ⟨-, hcounted⟩ := errors_told_in_full
    (.of_build (pressing_build []) [.register .error "watch"]) hstart hregistered hfree
  refine ⟨hstart, hregistered, hfree, by decide, hcounted _ (slices_after mishaps _), ?_⟩
  have hslices : ReflTransGen Slice watched.start.1 _ :=
    .tail (.single (.begun 0 rfl rfl)) (.ended rfl rfl)
  exact ⟨_, hslices, by decide, by decide, hcounted _ hslices⟩

end Driver

end QuadDaq

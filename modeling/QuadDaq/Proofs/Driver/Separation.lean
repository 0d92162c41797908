import QuadDaq.Proofs.Delivery.Ended
import QuadDaq.Proofs.Driver.Engines
import QuadDaq.Proofs.Driver.Reference
import QuadDaq.Proofs.Driver.Settling

/-!
# Streams are kept apart

**After its end a stream is silent, and before it speaks of itself only.** Once a stream has
been stopped its consumers are called no more; the calls in progress come to their ends when
they are let, whatever streams run by then (`traffic_after`). A batch that is delivered was
made of rows that its own stream read since it was started (`madeOf_of_delivered`).
-/

namespace QuadDaq

open Relation (ReflTransGen)

/-! ### Starts and the streams they begin -/

namespace Engine

variable {β : Type} {k : Nat} {e e' : Engine β}

/-- The engine has heard of a stream: its course tells of it, or it is in the run. -/
def Knows (k : Nat) (e : Engine β) : Prop :=
  (∃ event ∈ e.course, event.stream? = some k) ∨ ∃ run, e.run = some run ∧ run.stream = k

/-- Only an attempt to start a stream can make it known. -/
theorem Change.knows (h : Change e e') (hattempts : e'.attempts = e.attempts) (hk : e'.Knows k) :
    e.Knows k := by
  rcases hk with ⟨event, hevent, hstream⟩ | ⟨run', hrun', hstream⟩
  · obtain ⟨added, hcourse, hadded⟩ := h.course_eq
    rw [hcourse] at hevent
    rcases List.mem_append.mp hevent with hold | hnew
    · exact .inl ⟨event, hold, hstream⟩
    · obtain ⟨run, hrun, hrunStream⟩ := hadded event hnew
      exact .inr ⟨run, hrun, Option.some.inj (hrunStream.symm.trans hstream)⟩
  · rcases h.run_stream hrun' with ⟨run, hrun, hsame⟩ | ⟨-, hnew⟩
    · exact .inr ⟨run, hrun, hsame.symm.trans hstream⟩
    · omega

theorem knows_of_changes (h : ReflTransGen Change e e') (hattempts : e'.attempts = e.attempts)
    (hk : e'.Knows k) : e.Knows k := by
  induction h with
  | refl => exact hk
  | @tail b c hchanges hchange ih =>
      have hb := Driver.attempts_le_of_changes hchanges
      have hc := hchange.attempts_le
      exact ih (by omega) (hchange.knows (by omega) hk)

/-- While no start is possible the number of attempts stays. -/
theorem Change.attempts_eq (h : Change e e') (hphase : e.phase ≠ .stopped) :
    e'.attempts = e.attempts := by
  cases h with
  | attempted hstopped _ _ _ => exact absurd hstopped hphase
  | started hstopped _ _ => exact absurd hstopped hphase
  | _ => rfl

/-- A stream with published batches is known. -/
theorem knows_of_batchesOf {b : Batch} (h : b ∈ e.batchesOf k) : e.Knows k := by
  by_contra hnot
  have hunheard : ∀ event ∈ e.course, event.stream? ≠ some k :=
    fun event hevent hk => hnot (.inl ⟨event, hevent, hk⟩)
  rw [(ticksOf_eq_nil hunheard).2.1] at h
  cases h

end Engine

namespace Driver

variable {β : Type} [Board β] {k : Nat}

/-- No command but a start counts as an attempt. -/
theorem step_attempts {d : Driver β} (hd : d.Sound) {command : Command β} (hne : command ≠ .start) :
    (d.step command).1.engine.attempts = d.engine.attempts := by
  cases command with
  | start => exact absurd rfl hne
  | stop =>
      rw [step, d.stop_engine.1]
      by_cases hphase : d.engine.phase = .running
      · obtain ⟨e', heq, hchange, -⟩ := Engine.stop_eq_of_running hd.coherent hphase
        rw [heq]
        exact hchange.attempts_eq (by simp [hphase])
      · rw [Engine.stop_eq_of_ne hphase]
  | tick lag => exact (d.tick_keeps lag).attempts
  | releaseRead => exact d.releaseRead_keeps.attempts
  | register kind consumer =>
      simp only [step, register]
      split <;> rfl
  | configure command =>
      simp only [step, configure, Engine.configure]
      split <;> rfl
  | hold kind => rfl
  | unhold kind => rfl
  | release kind => rfl
  | finish stream kind => rfl
  | holdRead => rfl
  | disturb change => rfl

/-- A stream becomes known with the start that begins it. -/
theorem step_knows {d : Driver β} (hd : d.Sound) {command : Command β}
    (hk : (d.step command).1.engine.Knows k) :
    d.engine.Knows k ∨ command = .start ∧ d.start.2 = .done ∧ d.nextStream = k := by
  by_cases hcommand : command = .start
  · subst hcommand
    rw [step, d.start_engine.1] at hk
    rw [d.start_engine.2]
    rcases d.engine.start_cases with ⟨-, heq⟩ | ⟨-, e', outcome, heq, -, -, hcourse, hrun, -⟩ |
      ⟨-, -, board, log, hlog, heq⟩
    · rw [heq] at hk
      exact .inl hk
    · rw [heq] at hk
      unfold Engine.Knows at hk
      rw [hcourse, hrun] at hk
      exact .inl hk
    · rw [heq] at hk ⊢
      rcases hk with ⟨event, hevent, hstream⟩ | ⟨run, hrun, hstream⟩
      · exact .inl (.inl ⟨event, hlog ▸ hevent, hstream⟩)
      · refine .inr ⟨rfl, rfl, ?_⟩
        rw [← hstream, ← Option.some.inj hrun]
        rfl
  · exact .inl (Engine.knows_of_changes (changes_after hd [command]) (step_attempts hd hcommand) hk)

/-- A start among the commands began the stream. -/
structure Begins (k : Nat) (d : Driver β) (commands before rest : List (Command β)) : Prop where
  split : commands = before ++ .start :: rest
  started : (d.after before).start.2 = .done
  stream : (d.after before).nextStream = k

/-- A stream that a driver has heard of along a run began there. -/
theorem begins_of_knows (commands : List (Command β)) :
    ∀ {d : Driver β}, d.Sound → ¬d.engine.Knows k → (d.after commands).engine.Knows k →
      ∃ before rest, d.Begins k commands before rest := by
  induction commands with
  | nil => exact fun _ hnot hk => absurd hk hnot
  | cons command commands ih =>
      intro d hd hnot hk
      by_cases hstep : (d.step command).1.engine.Knows k
      · rcases step_knows hd hstep with hold | ⟨rfl, hstart, hstream⟩
        · exact absurd hold hnot
        · exact ⟨[], commands, rfl, hstart, hstream⟩
      · obtain ⟨before, rest, rfl, hstart, hstream⟩ := ih (hd.after [command]) hstep hk
        exact ⟨command :: before, rest, rfl, hstart, hstream⟩

omit [Board β] in
/-- What the data consumer was called with had been published. -/
theorem Sound.published_of_delivered {d : Driver β} (hd : d.Sound) {b : Batch} {n : Nat}
    (h : (b, n) ∈ d.delivery.deliveredOf k) : b ∈ d.engine.batchesOf k := by
  obtain ⟨settled, _, hfated, hreceived, -⟩ := (hd.delivery.accounts k).fated
  obtain ⟨rest, hdelivers, -⟩ := hfated.delivers
  have hb : b ∈ settled := hdelivers.sublist.subset (List.mem_map.mpr ⟨(b, n), h, rfl⟩)
  rw [← hd.receivedOf_eq, hreceived]
  exact List.mem_append_left _ (List.mem_append_left _ hb)

/-! ### After the end -/

/-- The command lets the calls of a kind end that a stream is inside. -/
def Command.ends (k : Nat) (kind : ConsumerKind) : Command β → Bool
  | .release kind' => kind == kind'
  | .finish j kind' => k == j && kind == kind'
  | _ => false

theorem completeTick_ended {d : Driver β} (h : d.delivery.Ended k) (run : Run) (tick : OpenTick) :
    (d.completeTick run tick).delivery.Ended k ∧
      (d.completeTick run tick).delivery.trafficOf k = d.delivery.trafficOf k := by
  obtain ⟨hended, htraffic⟩ := h.publishAll run.stream (d.engine.endTick run tick).2
  exact ⟨hended.deliver.1, hended.deliver.2.trans htraffic⟩

/-- Ticks are those of other streams, or come too late. -/
theorem tick_ended {d : Driver β} (h : d.delivery.Ended k) (lag : Duration) :
    (d.tick lag).1.delivery.Ended k ∧
      (d.tick lag).1.delivery.trafficOf k = d.delivery.trafficOf k := by
  rcases d.tick_cases lag with ⟨-, heq⟩ | ⟨run, run', tick, -, -, -, -, -, -, heq⟩
  · rw [heq]
    exact ⟨h, rfl⟩
  · obtain ⟨hbegun, htraffic⟩ := h.publishAll run.stream (d.engine.beginTick run lag).2
    rw [heq]
    split
    · exact ⟨hbegun.deliver.1, hbegun.deliver.2.trans htraffic⟩
    · have hbegun' : (d.begun run lag).delivery.Ended k := hbegun
      obtain ⟨hended, htraffic'⟩ := completeTick_ended hbegun' run' tick
      exact ⟨hended, htraffic'.trans htraffic⟩

theorem releaseRead_ended {d : Driver β} (h : d.delivery.Ended k) :
    d.releaseRead.delivery.Ended k ∧
      d.releaseRead.delivery.trafficOf k = d.delivery.trafficOf k := by
  rcases d.releaseRead_cases with ⟨run, tick, -, -, heq⟩ | ⟨-, heq⟩
  · rw [heq]
    exact completeTick_ended (d := { d with readHeld := false }) h run tick
  · rw [heq]
    exact ⟨h, rfl⟩

/-- A start begins a stream with a new number. -/
theorem start_ended {d : Driver β} (hk : k ≤ d.engine.attempts) (h : d.delivery.Ended k) :
    d.start.1.delivery.Ended k ∧ d.start.1.delivery.trafficOf k = d.delivery.trafficOf k := by
  by_cases hstart : d.start.2 = .done
  · obtain ⟨-, -, board, log, -, heq⟩ := start_eq_of_done hstart
    rw [heq]
    exact h.openStream (by omega) _
  · have hsame : d.start.1.delivery = d.delivery := by
      unfold start at hstart ⊢
      split at hstart
      · exact absurd rfl hstart
      · rfl
    rw [hsame]
    exact ⟨h, rfl⟩

omit [Board β] in
theorem register_ended {d : Driver β} (h : d.delivery.Ended k) (kind : EventKind) (consumer : String) :
    (d.register kind consumer).1.delivery.Ended k ∧
      (d.register kind consumer).1.delivery.trafficOf k = d.delivery.trafficOf k := by
  unfold register
  split
  · exact ⟨h, rfl⟩
  · exact ⟨h, h.traffic_of_frame rfl rfl (Consumers.setRegistration_callsOf _ _)⟩

/-- Of a stream that has ended, a command lets end the calls that it is about, and does
nothing else. -/
theorem step_ended {d : Driver β} (hd : d.Sound) (hk : k ≤ d.engine.attempts)
    (h : d.delivery.Ended k) (command : Command β) :
    (d.step command).1.delivery.Ended k ∧
      (d.step command).1.delivery.trafficOf k =
        (d.delivery.trafficOf k).returning k fun kind => command.ends k kind := by
  have htidy := hd.delivery.tidy
  -- Most commands let no call end.
  have hquiet : ∀ {d' : Driver β}, (d'.delivery.Ended k ∧
      d'.delivery.trafficOf k = d.delivery.trafficOf k) → d'.delivery.Ended k ∧
        d'.delivery.trafficOf k = (d.delivery.trafficOf k).returning k fun _ => false := by
    intro d' h'
    rwa [Traffic.returning_none]
  cases command with
  | start => exact hquiet (start_ended hk h)
  | stop =>
      refine hquiet ?_
      rcases d.stop_delivery_cases with heq | heq
      · rw [step, heq]
        exact ⟨h, rfl⟩
      · rw [step, heq]
        exact d.delivery.closeStream_traffic k
  | tick lag => exact hquiet (tick_ended h lag)
  | register kind consumer => exact hquiet (register_ended h kind consumer)
  | configure command => exact hquiet ⟨h, rfl⟩
  | hold kind => exact hquiet ⟨h, rfl⟩
  | unhold kind => exact hquiet ⟨h, rfl⟩
  | release kind =>
      have hunheld : (d.delivery.unhold kind).Tidy := ⟨htidy.current, htidy.retired⟩
      obtain ⟨hended, htraffic⟩ :=
        Delivery.Ended.endCalls (d := d.delivery.unhold kind) h hunheld (fun _ => true) kind
      exact ⟨hended, htraffic⟩
  | finish stream kind => exact h.endCalls htidy (· == stream) kind
  | holdRead => exact hquiet ⟨h, rfl⟩
  | releaseRead => exact hquiet (releaseRead_ended h)
  | disturb change => exact hquiet ⟨h, rfl⟩

/-- Of a stream that has ended, a run lets end the calls that its commands are about. -/
theorem traffic_after (commands : List (Command β)) :
    ∀ {d : Driver β}, d.Sound → k ≤ d.engine.attempts → d.delivery.Ended k →
      (d.after commands).delivery.trafficOf k =
        (d.delivery.trafficOf k).returning k fun kind => commands.any (Command.ends k kind) := by
  induction commands with
  | nil => exact fun _ _ _ => (Traffic.returning_none _ _).symm
  | cons command rest ih =>
      intro d hd hk h
      obtain ⟨hended, htraffic⟩ := step_ended hd hk h command
      have hd' : (d.step command).1.Sound := hd.after [command]
      have hk' := Nat.le_trans hk (attempts_le_after hd [command])
      rw [after_cons, ih hd' hk' hended, htraffic, Traffic.returning_returning]
      rfl

/-- After a stop every stream has ended, and the calls in progress are those of before. -/
theorem stop_ended {d : Driver β} (hd : d.Sound) (k : Nat) :
    d.stop.1.delivery.Ended k ∧ d.stop.1.delivery.trafficOf k = d.delivery.trafficOf k := by
  by_cases hphase : d.engine.phase = .running
  · obtain ⟨e', heq, -⟩ := Engine.stop_eq_of_running hd.coherent hphase
    unfold stop
    rw [heq]
    exact d.delivery.closeStream_traffic k
  · have hnone : d.delivery.current = none := by
      rw [← Option.not_isSome_iff_eq_none, ← hd.running]
      exact hphase
    unfold stop
    rw [Engine.stop_eq_of_ne hphase]
    exact ⟨fun o ho => absurd (hnone.symm.trans ho) (by simp), rfl⟩

omit [Board β] in
/-- Whatever moves follow, and however far workers get between them, nobody is called for a
stream that has ended. -/
theorem Move.ended {stops : Bool} {d d' : Driver β} (h : Move stops d d') (hd : d.Sound)
    (hk : k ≤ d.engine.attempts) (hended : d.delivery.Ended k) :
    d'.delivery.Ended k ∧ d'.delivery.admittedOf k = d.delivery.admittedOf k := by
  have hcalls : ∀ {v : Delivery}, v.Ended k ∧ v.trafficOf k = d.delivery.trafficOf k →
      v.Ended k ∧ v.admittedOf k = d.delivery.admittedOf k :=
    fun h => ⟨h.1, Consumers.admittedOf_congr (congrArg Traffic.calls h.2)⟩
  cases h with
  | aside _ _ _ _ => exact ⟨hended, rfl⟩
  | readHeld on => exact ⟨hended, rfl⟩
  | started _ _ _ => exact hcalls (hended.openStream (by omega) _)
  | stopped _ _ _ _ _ => exact hcalls (d.delivery.closeStream_traffic k)
  | ticked _ _ => exact hcalls (hended.publishAll _ _)
  | turned hturn => exact hended.turn hd.delivery.tidy hturn

omit [Board β] in
theorem moves_ended {stops : Bool} {d d' : Driver β} (h : ReflTransGen (Move stops) d d')
    (hd : d.Sound) (hk : k ≤ d.engine.attempts) (hended : d.delivery.Ended k) :
    d'.Sound ∧ k ≤ d'.engine.attempts ∧ d'.delivery.Ended k ∧
      d'.delivery.admittedOf k = d.delivery.admittedOf k := by
  refine moves_induction (P := fun d' => k ≤ d'.engine.attempts ∧ d'.delivery.Ended k ∧
    d'.delivery.admittedOf k = d.delivery.admittedOf k) ?_ h hd ⟨hk, hended, rfl⟩
  intro d₁ d₂ hd₁ hmove hsilent
  obtain ⟨hk₁, hended₁, hadmitted₁⟩ := hsilent
  obtain ⟨hended₂, hadmitted₂⟩ := hmove.ended hd₁ hk₁ hended₁
  exact ⟨Nat.le_trans hk₁ (attempts_le_of_changes hmove.engine_changes), hended₂,
    hadmitted₂.trans hadmitted₁⟩

/-! ### Main result -/

/-- With this end a stream falls silent. No consumer is called for it any more, whatever
moves follow; and whatever commands follow, the calls that were in progress come to their ends
when one of the commands lets them. -/
structure EndsFor (k : Nat) (d ended : Driver β) : Prop where
  silent : ∀ d', ReflTransGen (Move true) ended d' →
    d'.delivery.admittedOf k = d.delivery.admittedOf k
  traffic : ∀ commands, (ended.after commands).delivery.trafficOf k =
    (d.delivery.trafficOf k).returning k fun kind => commands.any (Command.ends k kind)

theorem endsFor {d : Driver β} (hd : d.Sound) (hk : k ≤ d.engine.attempts) :
    d.EndsFor k d.stop.1 := by
  have hd' : d.stop.1.Sound := hd.after [.stop]
  have hk' : k ≤ d.stop.1.engine.attempts := Nat.le_trans hk (attempts_le_after hd [.stop])
  obtain ⟨hended, htraffic⟩ := stop_ended hd k
  constructor
  · intro d' hmoves
    rw [(moves_ended hmoves hd' hk' hended).2.2.2]
    exact Consumers.admittedOf_congr (congrArg Traffic.calls htraffic)
  · intro commands
    rw [traffic_after commands hd' hk' hended, htraffic]

/-- Once a driver was stopped, or came to its end, its streams so far are silent. What the data
consumer was called with for a stream consists of rows that this stream has read, and its
ticks are counted from the start of the stream. -/
theorem streams_kept_apart {plan : DriverPlan β} {new : Driver β} (hbuild : plan.build = .ok new)
    (commands : List (Command β)) :
    (∀ k ≤ (new.after commands).engine.attempts,
      (new.after commands).EndsFor k (new.after commands).stop.1 ∧
        (new.after commands).EndsFor k (new.after commands).shutDown) ∧
      ∀ k b n, (b, n) ∈ (new.after commands).delivery.deliveredOf k →
        ∃ before rest, new.Begins k commands before rest ∧
          ∃ block, b.MadeOf ((new.after before).start.1.inputsOf k rest) block := by
  have hnew := sound_of_build hbuild
  have hd := hnew.after commands
  refine ⟨fun k hk => ⟨endsFor hd hk, endsFor hd hk⟩, fun k b n hb => ?_⟩
  have hpublished := hd.published_of_delivered hb
  have hfresh : ¬new.engine.Knows k := by
    obtain ⟨board, store, -, -, rfl⟩ := build_inv hbuild
    rintro (⟨event, hevent, -⟩ | ⟨run, hrun, -⟩)
    · simp [Engine.course, courseOf, DriverPlan.engine] at hevent
    · cases hrun
  obtain ⟨before, rest, hbegins⟩ :=
    begins_of_knows commands hnew hfresh (Engine.knows_of_batchesOf hpublished)
  refine ⟨before, rest, hbegins, ?_⟩
  obtain ⟨rfl, hstart, rfl⟩ := hbegins
  have hbefore := hnew.after before
  rw [after_append, after_cons] at hpublished
  rw [show ((new.after before).step .start).1 = (new.after before).start.1 from rfl,
    published_eq hbefore hstart rest] at hpublished
  exact madeOf_of_mem_reference hbefore.engine.batchRows hpublished

/-- A driver whose error consumer does not return, while one more error waits for it. -/
def alarmed : Driver Board.Scripted :=
  scriptedDriver.after
    [.register .error "alarm", .hold .error, .start, .tick 0, .tick 0, .tick 0]

theorem streams_kept_apart_scripted :
    scripted.build = .ok scriptedDriver ∧ 1 ≤ alarmed.engine.attempts ∧
      (alarmed.delivery.trafficOf 1).events = [⟨.error, ⟨"alarm", 1⟩⟩] ∧
      (alarmed.delivery.current.map fun o => o.errors.length) = some 1 ∧
      alarmed.EndsFor 1 alarmed.stop.1 ∧ alarmed.EndsFor 1 alarmed.shutDown ∧
      ((alarmed.stop.1.after [.start, .tick 0, .release .error]).delivery.trafficOf 1).events = [] := by
  obtain ⟨hends, -⟩ := streams_kept_apart scripted_build
    [.register .error "alarm", .hold .error, .start, .tick 0, .tick 0, .tick 0]
  obtain ⟨hstop, hshutDown⟩ := hends 1 (by decide)
  exact ⟨rfl, by decide, by decide, by decide, hstop, hshutDown, by decide⟩

end Driver

end QuadDaq

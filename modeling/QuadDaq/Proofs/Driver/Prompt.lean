import QuadDaq.Proofs.Delivery.Prompt
import QuadDaq.Proofs.Driver.Runs

/-!
# Runs in which the data consumer never blocks

**Every command delivers what it publishes** (`prompt_after`), so no batch is lost. A batch
can still come too late: if a stream is stopped while a read has not returned, the end of
that read completes one more tick. As long as no stop breaks into a read, none does
(`late_after`).
-/

namespace QuadDaq.Driver

open Relation (ReflTransGen)

variable {β : Type} [Board β]

/-- The command lets the data consumer block. -/
def Command.holdsData : Command β → Bool
  | .hold .data => true
  | _ => false

/-- No stop among the commands breaks into a read that has not returned. -/
def StopsBetweenReads (d : Driver β) (commands : List (Command β)) : Prop :=
  ∀ first rest, commands = first ++ .stop :: rest → (d.after first).readiness ≠ .stuck

theorem StopsBetweenReads.of_cons {d : Driver β} {command : Command β} {rest : List (Command β)}
    (h : d.StopsBetweenReads (command :: rest)) :
    (command = .stop → d.readiness ≠ .stuck) ∧ (d.step command).1.StopsBetweenReads rest := by
  constructor
  · rintro rfl
    exact h [] rest rfl
  · rintro first rest' rfl
    exact h (command :: first) rest' rfl

theorem StopsBetweenReads.cons {d : Driver β} {command : Command β} {rest : List (Command β)}
    (h : command = .stop → d.readiness ≠ .stuck) (hrest : (d.step command).1.StopsBetweenReads rest) :
    d.StopsBetweenReads (command :: rest) := by
  intro first rest' heq
  cases first with
  | nil => exact h (List.cons.inj heq).1
  | cons command' first =>
      obtain ⟨rfl, rfl⟩ := List.cons.inj heq
      exact hrest first rest' rfl

theorem StopsBetweenReads.nil {d : Driver β} : d.StopsBetweenReads [] := by
  intro first rest heq
  simp at heq

/-! ### Deliveries -/

/-- The beginning of a tick publishes no batch. -/
theorem beginTick_batches (e : Engine β) (run : Run) (lag : Duration) :
    (e.beginTick run lag).2.filterMap Signal.batch? = [] := by
  obtain ⟨board, button, polled, log, signals, heq, -, -, -, hbatch⟩ := e.beginTick_eq run lag
  rw [heq]
  exact List.filterMap_eq_nil_iff.mpr hbatch

theorem completeTick_prompt {d : Driver β} (hd : d.Sound) (hp : d.delivery.Prompt) {run : Run}
    {tick : OpenTick} (hrun : d.engine.run = some run) (hopen : run.openTick = some tick) :
    (d.completeTick run tick).delivery.Prompt ∧
      (d.completeTick run tick).delivery.lost = d.delivery.lost := by
  have hhalf := Engine.endTick_half hrun hopen hd.coherent.not_running
  exact hp.publishAll_deliver run.stream hhalf.batches

theorem tick_prompt {d : Driver β} (hd : d.Sound) (hp : d.delivery.Prompt) (lag : Duration) :
    (d.tick lag).1.delivery.Prompt ∧ (d.tick lag).1.delivery.lost = d.delivery.lost := by
  rcases d.tick_cases lag with ⟨-, heq⟩ | ⟨run, run', tick, hready, hrun, hrun', -, hopen, -, heq⟩
  · rw [heq]
    exact ⟨hp, rfl⟩
  · have hbatches := beginTick_batches d.engine run lag
    rw [heq]
    by_cases hheld : d.readHeld
    · rw [if_pos hheld]
      exact hp.publishAll_deliver run.stream (by rw [hbatches]; exact Nat.zero_le _)
    · rw [if_neg hheld]
      have hbegun : Move false d (d.begun run lag) := begun_move lag hready hrun
      obtain ⟨hprompt, hlost⟩ := hp.publishAll run.stream hbatches
      obtain ⟨hprompt', hlost'⟩ := completeTick_prompt (hbegun.sound hd) hprompt hrun' hopen
      exact ⟨hprompt', hlost'.trans hlost⟩

/-- A command that does not let the data consumer block leaves nothing waiting, and nothing
is lost with it. -/
theorem step_prompt {d : Driver β} (hd : d.Sound) (hp : d.delivery.Prompt) {command : Command β}
    (hcommand : command.holdsData = false) :
    (d.step command).1.delivery.Prompt ∧ (d.step command).1.delivery.lost = d.delivery.lost := by
  cases command with
  | start =>
      simp only [step]
      rcases d.start_delivery_cases with heq | ⟨k, capacity, heq⟩
      · rw [heq]
        exact ⟨hp, rfl⟩
      · rw [heq]
        refine ⟨⟨hp.unheld, ?_⟩, rfl⟩
        intro o ho
        rw [← Option.some.inj ho]
        exact ⟨rfl, rfl, Nat.le_refl _⟩
  | stop =>
      simp only [step]
      rcases d.stop_delivery_cases with heq | heq
      · rw [heq]
        exact ⟨hp, rfl⟩
      · rw [heq]
        obtain ⟨hprompt, hlost, -⟩ := hp.closeStream
        exact ⟨hprompt, hlost⟩
  | tick lag => exact tick_prompt hd hp lag
  | register kind consumer =>
      simp only [step, register]
      split
      · exact ⟨hp, rfl⟩
      · refine ⟨⟨?_, hp.free⟩, (Consumers.setRegistration_sameLedger _ _ _).lost⟩
        exact (congrArg Holds.data (Consumers.setRegistration_holds _ _ _)).trans hp.unheld
  | configure command => exact ⟨hp, rfl⟩
  | hold kind =>
      refine ⟨hp.setHold ?_, rfl⟩
      rintro rfl
      cases hcommand
  | unhold kind => exact ⟨hp.setHold fun _ => rfl, rfl⟩
  | release kind =>
      have hunhold : (d.delivery.unhold kind).Prompt := hp.setHold fun _ => rfl
      exact hunhold.endCalls (fun _ => true) kind
  | finish stream kind => exact hp.endCalls (· == stream) kind
  | holdRead => exact ⟨hp, rfl⟩
  | releaseRead =>
      have hmove : Move false d { d with readHeld := false } := .readHeld d false
      have hreturns := hmove.sound hd
      simp only [step]
      rcases d.releaseRead_cases with ⟨run, tick, hrun, hopen, heq⟩ | ⟨-, heq⟩
      · rw [heq]
        exact completeTick_prompt hreturns hp hrun hopen
      · rw [heq]
        exact ⟨hp, rfl⟩
  | disturb change => exact ⟨hp, rfl⟩

/-- As long as the data consumer does not block, nothing is lost. -/
theorem prompt_after (commands : List (Command β)) :
    ∀ {d : Driver β}, d.Sound → d.delivery.Prompt →
      (∀ command ∈ commands, command.holdsData = false) →
      (d.after commands).delivery.Prompt ∧
        (d.after commands).delivery.lost = d.delivery.lost := by
  induction commands with
  | nil => exact fun _ hp _ => ⟨hp, rfl⟩
  | cons command rest ih =>
      intro d hd hp hcommands
      obtain ⟨hprompt, hlost⟩ := step_prompt hd hp (hcommands command List.mem_cons_self)
      obtain ⟨hprompt', hlost'⟩ := ih (hd.after [command]) hprompt
        fun command' hmem => hcommands command' (List.mem_cons_of_mem _ hmem)
      exact ⟨hprompt', hlost'.trans hlost⟩

/-! ### Batches that come too late -/

omit [Board β] in
/-- While no stopped stream is in a read, only a stop lets batches come too late. -/
theorem Move.late {d d' : Driver β} (h : Move false d d') (hl : d.Linked)
    (hc : d.engine.custody ≠ .awaited) :
    d'.engine.custody ≠ .awaited ∧ d'.delivery.late = d.delivery.late := by
  cases h with
  | aside hchange _ _ hphase =>
      refine ⟨fun hawaited => ?_, rfl⟩
      rcases hchange.custody hawaited with hold | ⟨hrunning, hstopped⟩
      · exact hc hold
      · rw [hstopped] at hphase
        exact absurd (hphase.mpr hrunning) (by simp)
  | readHeld on => exact ⟨hc, rfl⟩
  | started _ _ _ => exact ⟨by simp [Engine.started], rfl⟩
  | stopped hstops _ _ _ _ => cases hstops
  | ticked hrun hhalf =>
      refine ⟨fun hawaited => hc (hhalf.custody hawaited), ?_⟩
      -- The stream still runs, so its outlet is the current one.
      have hsampling : d.engine.custody = .sampling :=
        (hl.coherent.running.mp (by rw [hrun]; rfl)).resolve_right hc
      obtain ⟨o, ho⟩ :=
        Option.isSome_iff_exists.mp (hl.running.mp (hl.coherent.sampling.mpr hsampling))
      refine Delivery.publishAll_late _ _ ?_
      rw [ho, Option.map_some, hl.stream o ho _ hrun]
  | turned hturn => exact ⟨hc, hturn.loses_nothing.2.2⟩

/-- A stop between two reads lets nothing come too late if nothing waits. -/
theorem stop_late {d : Driver β} (hd : d.Sound) (hp : d.delivery.Prompt)
    (hc : d.engine.custody ≠ .awaited) (hready : d.readiness ≠ .stuck) :
    d.stop.1.engine.custody ≠ .awaited ∧ d.stop.1.delivery.late = d.delivery.late := by
  unfold stop
  by_cases hphase : d.engine.phase = .running
  · obtain ⟨e', heq, hchange, hphase', -, hrun'⟩ :=
      Engine.stop_eq_of_running hd.coherent hphase
    rw [heq]
    refine ⟨?_, hp.closeStream.2.2⟩
    rcases hrun' with hnone | ⟨run, hrun, hopen, -⟩
    · intro hawaited
      have hrunning := (hchange.coherent hd.coherent).running.mpr (.inr hawaited)
      rw [hnone] at hrunning
      cases hrunning
    · obtain ⟨tick, htick⟩ := Option.isSome_iff_exists.mp hopen
      have hcrashed := hd.coherent.not_crashed hrun htick
      refine absurd ?_ hready
      simp only [readiness, hphase, hrun, hcrashed, hopen, if_true, Bool.false_eq_true, if_false]
  · rw [Engine.stop_eq_of_ne hphase]
    exact ⟨hc, rfl⟩

theorem step_late {d : Driver β} (hd : d.Sound) (hp : d.delivery.Prompt)
    (hc : d.engine.custody ≠ .awaited) {command : Command β}
    (hready : command = .stop → d.readiness ≠ .stuck) :
    (d.step command).1.engine.custody ≠ .awaited ∧
      (d.step command).1.delivery.late = d.delivery.late := by
  cases hstop : command.isStop with
  | true =>
      cases command <;> simp [Command.isStop] at hstop
      exact stop_late hd hp hc (hready rfl)
  | false =>
      have hmoves := step_moves hd.toLinked command
      rw [hstop] at hmoves
      generalize (d.step command).1 = d' at hmoves ⊢
      suffices d'.Linked ∧ d'.engine.custody ≠ .awaited ∧ d'.delivery.late = d.delivery.late from
        this.2
      induction hmoves with
      | refl => exact ⟨hd.toLinked, hc, rfl⟩
      | tail _ hmove ih =>
          obtain ⟨hl, hc', hlate⟩ := ih
          obtain ⟨hc'', hlate'⟩ := hmove.late hl hc'
          exact ⟨hmove.linked hl, hc'', hlate'.trans hlate⟩

/-- As long as the data consumer does not block and no stop breaks into a read, nothing
comes too late. -/
theorem late_after (commands : List (Command β)) :
    ∀ {d : Driver β}, d.Sound → d.delivery.Prompt → d.engine.custody ≠ .awaited →
      (∀ command ∈ commands, command.holdsData = false) → d.StopsBetweenReads commands →
      (d.after commands).delivery.late = d.delivery.late := by
  induction commands with
  | nil => exact fun _ _ _ _ _ => rfl
  | cons command rest ih =>
      intro d hd hp hc hcommands hstops
      obtain ⟨hready, hstops'⟩ := hstops.of_cons
      obtain ⟨hprompt, -⟩ := step_prompt hd hp (hcommands command List.mem_cons_self)
      obtain ⟨hc', hlate⟩ := step_late hd hp hc hready
      exact (ih (hd.after [command]) hprompt hc'
        (fun command' hmem => hcommands command' (List.mem_cons_of_mem _ hmem)) hstops').trans hlate

end QuadDaq.Driver

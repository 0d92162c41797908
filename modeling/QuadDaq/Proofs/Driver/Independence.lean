import QuadDaq.Proofs.Delivery.Ended
import QuadDaq.Proofs.Driver.History

/-!
# Sampling does not depend on consumers

**Whatever consumers do, the sampling side goes through the same states.** Drivers that differ
in nothing but their delivery sides answer every command alike and are left in such a
relation again (`SamplesAlike.step`). A command that is about consumers only leaves the
sampling side alone (`samplesAlike_of_ofConsumers`). So of two runs that differ in such
commands only, all the rest is the same.
-/

namespace QuadDaq.Driver

variable {β : Type}

/-- The drivers differ in nothing but their delivery sides. -/
structure SamplesAlike (d d' : Driver β) : Prop where
  engine : d'.engine = d.engine
  readHeld : d'.readHeld = d.readHeld

/-- The command only decides when consumers return. -/
def Command.ofConsumers : Command β → Bool
  | .hold _ | .unhold _ | .release _ | .finish _ _ => true
  | _ => false

namespace SamplesAlike

variable {d d' : Driver β}

theorem refl (d : Driver β) : d.SamplesAlike d := ⟨rfl, rfl⟩

theorem symm (h : d.SamplesAlike d') : d'.SamplesAlike d := ⟨h.engine.symm, h.readHeld.symm⟩

theorem trans {d'' : Driver β} (h : d.SamplesAlike d') (h' : d'.SamplesAlike d'') :
    d.SamplesAlike d'' :=
  ⟨h'.engine.trans h.engine, h'.readHeld.trans h.readHeld⟩

theorem readiness (h : d.SamplesAlike d') : d'.readiness = d.readiness := by
  simp only [Driver.readiness, h.engine]

theorem register (h : d.SamplesAlike d') (kind : EventKind) (consumer : String) :
    (d.register kind consumer).1.SamplesAlike (d'.register kind consumer).1 ∧
      (d'.register kind consumer).2 = (d.register kind consumer).2 := by
  simp only [Driver.register, h.engine]
  split
  · exact ⟨h, rfl⟩
  · exact ⟨⟨rfl, h.readHeld⟩, rfl⟩

theorem configure (h : d.SamplesAlike d') (command : Settings.Command) :
    (d.configure command).1.SamplesAlike (d'.configure command).1 ∧
      (d'.configure command).2 = (d.configure command).2 := by
  simp only [Driver.configure, h.engine]
  exact ⟨⟨rfl, h.readHeld⟩, trivial⟩

variable [Board β]

theorem start (h : d.SamplesAlike d') :
    d.start.1.SamplesAlike d'.start.1 ∧ d'.start.2 = d.start.2 := by
  simp only [Driver.start, h.engine]
  split <;> exact ⟨⟨rfl, h.readHeld⟩, rfl⟩

theorem stop (h : d.SamplesAlike d') :
    d.stop.1.SamplesAlike d'.stop.1 ∧ d'.stop.2 = d.stop.2 := by
  simp only [Driver.stop, h.engine]
  split <;> exact ⟨⟨rfl, h.readHeld⟩, rfl⟩

theorem begun (h : d.SamplesAlike d') (run : Run) (lag : Duration) :
    (d.begun run lag).SamplesAlike (d'.begun run lag) :=
  ⟨congrArg (fun e => (e.beginTick run lag).1) h.engine, h.readHeld⟩

theorem completeTick (h : d.SamplesAlike d') (run : Run) (tick : OpenTick) :
    (d.completeTick run tick).SamplesAlike (d'.completeTick run tick) :=
  ⟨congrArg (fun e => (e.endTick run tick).1) h.engine, h.readHeld⟩

theorem tick (h : d.SamplesAlike d') (lag : Duration) :
    (d.tick lag).1.SamplesAlike (d'.tick lag).1 ∧ (d'.tick lag).2 = (d.tick lag).2 := by
  by_cases hready : d.readiness = .done
  · have hready' : d'.readiness = .done := h.readiness.trans hready
    obtain ⟨run, run₁, tick, hrun, hrun₁, -, hopen, -, heq⟩ := tick_of_ready hready lag
    obtain ⟨run', run₁', tick', hrun', hrun₁', -, hopen', -, heq'⟩ := tick_of_ready hready' lag
    -- Both drivers have the same run, before and after the tick has begun.
    obtain rfl : run = run' := Option.some.inj (hrun.symm.trans (h.engine ▸ hrun'))
    have hbegun := h.begun run lag
    obtain rfl : run₁ = run₁' := Option.some.inj (hrun₁.symm.trans (hbegun.engine ▸ hrun₁'))
    obtain rfl : tick = tick' := Option.some.inj (hopen.symm.trans hopen')
    have hdone := hbegun.completeTick run₁ tick
    rw [heq, heq', h.readHeld]
    split
    · exact ⟨⟨hbegun.engine, hbegun.readHeld⟩, rfl⟩
    · exact ⟨hdone, by simp only [tickReply, hdone.engine]⟩
  · have hready' : d'.readiness ≠ .done := h.readiness ▸ hready
    rw [tick_of_not_ready hready, tick_of_not_ready hready']
    exact ⟨h, h.readiness⟩

theorem releaseRead (h : d.SamplesAlike d') : d.releaseRead.SamplesAlike d'.releaseRead := by
  have hreturns : ({ d with readHeld := false } : Driver β).SamplesAlike
      { engine := d.engine, delivery := d'.delivery, readHeld := false } := ⟨rfl, rfl⟩
  simp only [Driver.releaseRead, h.engine]
  split
  · split
    · exact hreturns.completeTick _ _
    · exact hreturns
  · exact hreturns

/-- Drivers that sample alike answer every command alike, and sample alike afterwards. -/
theorem step (h : d.SamplesAlike d') (command : Command β) :
    (d.step command).1.SamplesAlike (d'.step command).1 ∧
      (d'.step command).2 = (d.step command).2 := by
  have hreply : ∀ {o o' : Outcome}, o' = o → Reply.outcome o' = .outcome o := congrArg Reply.outcome
  cases command with
  | start => exact ⟨h.start.1, hreply h.start.2⟩
  | stop => exact ⟨h.stop.1, hreply h.stop.2⟩
  | tick lag => exact ⟨(h.tick lag).1, congrArg Reply.tick (h.tick lag).2⟩
  | register kind consumer =>
      exact ⟨(h.register kind consumer).1, hreply (h.register kind consumer).2⟩
  | configure command => exact ⟨(h.configure command).1, hreply (h.configure command).2⟩
  | hold kind => exact ⟨⟨h.engine, h.readHeld⟩, rfl⟩
  | unhold kind => exact ⟨⟨h.engine, h.readHeld⟩, rfl⟩
  | release kind => exact ⟨⟨h.engine, h.readHeld⟩, rfl⟩
  | finish stream kind => exact ⟨⟨h.engine, h.readHeld⟩, rfl⟩
  | holdRead => exact ⟨⟨h.engine, rfl⟩, rfl⟩
  | releaseRead => exact ⟨h.releaseRead, rfl⟩
  | disturb change =>
      exact ⟨⟨congrArg (fun e => { e with board := change e.board }) h.engine, h.readHeld⟩, rfl⟩

end SamplesAlike

/-! ### Runs -/

variable [Board β]

/-- What consumers do leaves the sampling side alone. -/
theorem samplesAlike_of_ofConsumers (d : Driver β) {command : Command β}
    (h : command.ofConsumers = true) : d.SamplesAlike (d.step command).1 := by
  cases command with
  | hold kind => exact ⟨rfl, rfl⟩
  | unhold kind => exact ⟨rfl, rfl⟩
  | release kind => exact ⟨rfl, rfl⟩
  | finish stream kind => exact ⟨rfl, rfl⟩
  | _ => cases h

/-- What there is to see of the sampling side at a command that does not only decide when
consumers return: its answer, and the engine that it leaves behind, with the board and the
calls it had so far, the store, the counters, and everything published. -/
def sampled? (d : Driver β) (command : Command β) : Option (Reply × Engine β) :=
  if command.ofConsumers then none else some ((d.step command).2, (d.step command).1.engine)

/-- The commands that do not only decide when consumers return. -/
def Command.withoutConsumers (commands : List (Command β)) : List (Command β) :=
  commands.filter fun command => !command.ofConsumers

/-- The sampling side goes through a run as if consumers were not there. -/
theorem samples_withoutConsumers (commands : List (Command β)) :
    ∀ {d d' : Driver β}, d.SamplesAlike d' →
      (d.after commands).SamplesAlike (d'.after (Command.withoutConsumers commands)) ∧
        d.gather sampled? commands = d'.gather sampled? (Command.withoutConsumers commands) := by
  induction commands with
  | nil => exact fun h => ⟨h, rfl⟩
  | cons command rest ih =>
      intro d d' h
      cases hcommand : command.ofConsumers with
      | true =>
          have hstep : (d.step command).1.SamplesAlike d' :=
            (d.samplesAlike_of_ofConsumers hcommand).symm.trans h
          obtain ⟨halike, hsampled⟩ := ih hstep
          have hskip : Command.withoutConsumers (command :: rest) =
              Command.withoutConsumers rest := List.filter_cons_of_neg (by simp [hcommand])
          rw [hskip, gather, sampled?, if_pos hcommand]
          exact ⟨halike, hsampled⟩
      | false =>
          obtain ⟨hstep, hreply⟩ := h.step command
          obtain ⟨halike, hsampled⟩ := ih hstep
          have hkeep : Command.withoutConsumers (command :: rest) =
              command :: Command.withoutConsumers rest :=
            List.filter_cons_of_pos (by simp [hcommand])
          rw [hkeep, gather, gather, sampled?, sampled?, if_neg (by simp [hcommand]),
            if_neg (by simp [hcommand]), hreply, hstep.engine, hsampled]
          exact ⟨halike, rfl⟩

/-- Two runs of a driver that differ only in when consumers return show the same of the
sampling side after every other command, and hand the same signals to the delivery side. -/
theorem sampling_independent {plan : DriverPlan β} {new : Driver β} (hbuild : plan.build = .ok new)
    {commands commands' : List (Command β)}
    (hsame : Command.withoutConsumers commands = Command.withoutConsumers commands') :
    new.gather sampled? commands = new.gather sampled? commands' ∧
      (new.after commands).SamplesAlike (new.after commands') ∧
      (new.after commands').delivery.received = (new.after commands).delivery.received := by
  have hnew := sound_of_build hbuild
  obtain ⟨halike, hsampled⟩ := samples_withoutConsumers commands (.refl new)
  obtain ⟨halike', hsampled'⟩ := samples_withoutConsumers commands' (.refl new)
  rw [← hsame] at halike' hsampled'
  have hboth := halike.trans halike'.symm
  refine ⟨hsampled.trans hsampled'.symm, hboth, ?_⟩
  rw [(hnew.after commands).received, (hnew.after commands').received, hboth.engine]

/-- A run whose error consumer returns at once. -/
def prompt : List (Command Board.Scripted) :=
  [.register .error "alarm", .start, .tick 0, .tick 0, .tick 0, .stop]

/-- The same run with an error consumer that does not return until the stream is stopped. -/
def slow : List (Command Board.Scripted) :=
  [.register .error "alarm", .hold .error, .start, .tick 0, .tick 0, .tick 0, .stop, .release .error]

theorem sampling_independent_scripted :
    scripted.build = .ok scriptedDriver ∧
      Command.withoutConsumers prompt = Command.withoutConsumers slow ∧
      (scriptedDriver.gather sampled? prompt).length = 6 ∧
      scriptedDriver.gather sampled? prompt = scriptedDriver.gather sampled? slow ∧
      ((scriptedDriver.after prompt).delivery.admittedOf 1).length = 2 ∧
      ((scriptedDriver.after slow).delivery.admittedOf 1).length = 1 := by
  have hsame : Command.withoutConsumers prompt = Command.withoutConsumers slow := rfl
  exact ⟨rfl, hsame, by decide, (sampling_independent scripted_build hsame).1, by decide, by decide⟩

end QuadDaq.Driver

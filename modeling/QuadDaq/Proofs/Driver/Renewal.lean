import QuadDaq.Proofs.Delivery.Renewal
import QuadDaq.Proofs.Driver.Shape
import QuadDaq.Proofs.Stream.Renewal
import QuadDaq.Rig.Board

/-!
# Starting anew

**No stream leaves anything behind that a later stream could show.** Two drivers that stopped
alike (`StopsAlike`) may have had any streams before. Whatever they are asked from then on
they answer alike, deliver alike and count alike, only that their streams have different
numbers. What is asked must not reach back into what the earlier streams left: their consumers
and their reads return at another time.

Both drivers *repeat* what a third one does, to which nothing has happened yet
(`Driver.renewed`): both their sides are later ones of its sides. Every command leaves a driver
in that relation (`Repeats.step`).
-/

namespace QuadDaq.Driver

variable {β : Type}

/-! ### Commands after a stop -/

/-- The same command for a driver that had so many streams before. -/
def Command.since (streams : Nat) : Command β → Command β
  | .finish k kind => .finish (streams + k) kind
  | command => command

/-- The command lets be what the streams of a stopped driver left: the calls of their
consumers, and a read that has not returned. Streams are numbered from that stop on. -/
def Command.Spares (d : Driver β) : Command β → Prop
  | .finish k _ => 0 < k
  | .release .data => ∀ o ∈ d.delivery.retired, o.dataCall = none
  | .releaseRead => d.engine.custody ≠ .awaited
  | _ => True

/-- What earlier streams left are closed outlets with data calls at most, and a read that has
not returned at most. -/
structure Detached (d : Driver β) : Prop where
  outlets : ∀ o ∈ d.delivery.retired,
    o.closed = true ∧ o.stream ≤ d.engine.attempts ∧ o.eventCall = none
  read : d.engine.run.isSome → d.engine.custody = .awaited

/-- The driver `d'` has gone through the same as `d`, after what happened to `before`. -/
structure Repeats (before d d' : Driver β) : Prop where
  engine : before.engine.Repeats d.engine d'.engine
  delivery : ∃ left, (∀ o ∈ left, o ∈ before.delivery.retired) ∧
    d'.delivery = .later before.delivery.toConsumers before.engine.attempts left d.delivery
  readHeld : d'.readHeld = d.readHeld

namespace Repeats

variable {before d d' : Driver β}

/-! ### The delivery side -/

theorem publish (h : before.Repeats d d') (k : Nat) (signals : List Signal) :
    before.Repeats (d.publish k signals) (d'.publish (before.engine.attempts + k) signals) := by
  obtain ⟨left, hleft, heq⟩ := h.delivery
  refine ⟨h.engine, ⟨left, hleft, ?_⟩, h.readHeld⟩
  simp only [Driver.publish, heq, Delivery.publishAll_later]

theorem deliver (h : before.Repeats d d') : before.Repeats d.deliver d'.deliver := by
  obtain ⟨left, hleft, heq⟩ := h.delivery
  refine ⟨h.engine, ⟨left, hleft, ?_⟩, h.readHeld⟩
  simp only [Driver.deliver, heq, Delivery.deliver_later]

theorem register (h : before.Repeats d d') (kind : EventKind) (consumer : String) :
    before.Repeats (d.register kind consumer).1 (d'.register kind consumer).1 ∧
      (d'.register kind consumer).2 = (d.register kind consumer).2 := by
  simp only [Driver.register, h.engine.phase]
  split
  · exact ⟨h, rfl⟩
  · obtain ⟨left, hleft, heq⟩ := h.delivery
    refine ⟨⟨h.engine, ⟨left, hleft, ?_⟩, h.readHeld⟩, rfl⟩
    simp only [heq, Delivery.register_later]

theorem setHold (h : before.Repeats d d') (kind : ConsumerKind) (on : Bool) :
    before.Repeats
      { d with delivery := { d.delivery with
          toConsumers := d.delivery.toConsumers.setHold kind on } }
      { d' with delivery := { d'.delivery with
          toConsumers := d'.delivery.toConsumers.setHold kind on } } := by
  obtain ⟨left, hleft, heq⟩ := h.delivery
  exact ⟨h.engine, ⟨left, hleft, by rw [heq, Delivery.setHold_later]⟩, h.readHeld⟩

/-- Which calls end is chosen by how many streams there were since. -/
theorem endCalls (h : before.Repeats d d') {chosen chosen' : Nat → Bool}
    (hchosen : ∀ k, chosen' (before.engine.attempts + k) = chosen k) {kind : ConsumerKind}
    (hletBe : ∀ o ∈ before.delivery.retired, o.LetBe chosen' kind) :
    before.Repeats { d with delivery := d.delivery.endCalls chosen kind }
      { d' with delivery := d'.delivery.endCalls chosen' kind } := by
  obtain ⟨left, hleft, heq⟩ := h.delivery
  refine ⟨h.engine, ⟨left.filter Outlet.isBusy, ?_, ?_⟩, h.readHeld⟩
  · exact fun o ho => hleft o (List.mem_filter.mp ho).1
  · simp only [heq]
    exact Delivery.endCalls_later _ _ left d.delivery hchosen fun o ho => hletBe o (hleft o ho)

theorem finish (h : before.Repeats d d') (hbefore : before.Detached) {k : Nat} (hk : 0 < k)
    (kind : ConsumerKind) :
    before.Repeats (d.finish k kind) (d'.finish (before.engine.attempts + k) kind) := by
  refine h.endCalls (fun j => ?_) fun o ho => ?_
  · simp only [Bool.beq_eq_decide_eq, Nat.add_left_cancel_iff]
  · obtain ⟨hclosed, hle, hfree⟩ := hbefore.outlets o ho
    refine ⟨hclosed, hfree, fun hstream _ => ?_⟩
    have hlate : o.stream = before.engine.attempts + k := by simpa using hstream
    omega

theorem release (h : before.Repeats d d') (hbefore : before.Detached) {kind : ConsumerKind}
    (hspares : (Command.release kind : Command β).Spares before) :
    before.Repeats (d.release kind) (d'.release kind) := by
  have hall : ∀ k, (fun _ : Nat => true) (before.engine.attempts + k) = (fun _ => true) k :=
    fun _ => rfl
  refine (h.setHold kind false).endCalls hall fun o ho => ?_
  obtain ⟨hclosed, -, hfree⟩ := hbefore.outlets o ho
  refine ⟨hclosed, hfree, ?_⟩
  rintro - rfl
  exact hspares o ho

theorem configure (h : before.Repeats d d') (command : Settings.Command) :
    before.Repeats (d.configure command).1 (d'.configure command).1 ∧
      (d'.configure command).2 = (d.configure command).2 :=
  ⟨⟨(h.engine.configure command).1, h.delivery, h.readHeld⟩, (h.engine.configure command).2⟩

/-! ### Ticks -/

theorem readiness (h : before.Repeats d d') : d'.readiness = d.readiness := by
  by_cases hphase : d.engine.phase = .running
  case neg =>
    have hne : ∀ d : Driver β, d.engine.phase ≠ .running → d.readiness = .notRunning := by
      intro d hphase
      unfold Driver.readiness
      split
      · next hrunning _ => exact absurd hrunning hphase
      · rfl
    rw [hne d hphase, hne d' (h.engine.phase ▸ hphase)]
  have hphase' : d'.engine.phase = .running := h.engine.phase.trans hphase
  cases hrun : d.engine.run with
  | none =>
      have hrun' := h.engine.run_eq_none (h.engine.before_run_of_running hphase) hrun
      simp only [Driver.readiness, hphase, hphase', hrun, hrun']
  | some run =>
      obtain ⟨deadline, hrun'⟩ := h.engine.run hrun
      simp only [Driver.readiness, hphase, hphase', hrun, hrun', Run.later, Option.isSome_map]

theorem tickReply (h : before.Repeats d d') (hbefore : before.engine.run = none) :
    d'.tickReply = d.tickReply := by
  cases hrun : d.engine.run with
  | none => simp only [Driver.tickReply, hrun, h.engine.run_eq_none hbefore hrun]
  | some run =>
      obtain ⟨deadline, hrun'⟩ := h.engine.run hrun
      simp only [Driver.tickReply, hrun, hrun', Run.later]

variable [Board β]

theorem begun (h : before.Repeats d d') {run : Run} (hrun : d.engine.run = some run)
    (lag : Duration) :
    ∃ deadline, d'.engine.run = some (run.later before.engine deadline) ∧
      before.Repeats (d.begun run lag) (d'.begun (run.later before.engine deadline) lag) := by
  obtain ⟨deadline, hrun', hengine, hsignals⟩ := h.engine.beginTick hrun lag
  refine ⟨deadline, hrun', ?_⟩
  have hbegun : before.Repeats { d with engine := (d.engine.beginTick run lag).1 }
      { d' with engine := (d'.engine.beginTick (run.later before.engine deadline) lag).1 } :=
    ⟨hengine, h.delivery, h.readHeld⟩
  rw [Driver.begun, Driver.begun, hsignals]
  exact hbegun.publish run.stream _

/-- The run that has a read open has the same one open later. -/
theorem completeTick (h : before.Repeats d d') {run run' : Run} (hrun : d.engine.run = some run)
    (hrun' : d'.engine.run = some run') {tick tick' : OpenTick} (hopen : run.openTick = some tick)
    (hopen' : run'.openTick = some tick') :
    before.Repeats (d.completeTick run tick) (d'.completeTick run' tick') := by
  obtain ⟨deadline, hlater, hengine, hsignals⟩ := h.engine.endTick hrun tick
  obtain rfl := Option.some.inj (hlater.symm.trans hrun')
  have htick : (run.later before.engine deadline).openTick =
      some (tick.later before.engine.store.snapshot.bridgeEpoch) := by
    rw [Run.later, hopen, Option.map_some]
  obtain rfl := Option.some.inj (htick.symm.trans hopen')
  have hended : before.Repeats { d with engine := (d.engine.endTick run tick).1 }
      { d' with engine := (d'.engine.endTick (run.later before.engine deadline)
          (tick.later before.engine.store.snapshot.bridgeEpoch)).1 } :=
    ⟨hengine, h.delivery, h.readHeld⟩
  have hpublished := (hended.publish run.stream (d.engine.endTick run tick).2).deliver
  simp only [Driver.completeTick, hsignals]
  exact hpublished

theorem tick (h : before.Repeats d d') (lag : Duration) :
    before.Repeats (d.tick lag).1 (d'.tick lag).1 ∧ (d'.tick lag).2 = (d.tick lag).2 := by
  by_cases hready : d.readiness = .done
  case neg =>
    have hready' : d'.readiness ≠ .done := h.readiness ▸ hready
    rw [tick_of_not_ready hready, tick_of_not_ready hready']
    exact ⟨h, h.readiness⟩
  have hready' : d'.readiness = .done := h.readiness.trans hready
  obtain ⟨run, run₁, tick, hrun, hrun₁, -, hopen, -, heq⟩ := tick_of_ready hready lag
  obtain ⟨run', run₁', tick', hrun', hrun₁', -, hopen', -, heq'⟩ := tick_of_ready hready' lag
  obtain ⟨deadline, hlater, hbegun⟩ := h.begun hrun lag
  obtain rfl := Option.some.inj (hlater.symm.trans hrun')
  have hdone := hbegun.completeTick hrun₁ hrun₁' hopen hopen'
  rw [heq, heq', h.readHeld]
  split
  · exact ⟨hbegun.deliver, rfl⟩
  · exact ⟨hdone, hdone.tickReply (h.engine.before_run hrun)⟩

theorem releaseRead (h : before.Repeats d d') (hbefore : before.engine.run = none) :
    before.Repeats d.releaseRead d'.releaseRead := by
  have hreturns : before.Repeats { d with readHeld := false } { d' with readHeld := false } :=
    ⟨h.engine, h.delivery, rfl⟩
  cases hrun : d.engine.run with
  | none =>
      have hrun' := h.engine.run_eq_none hbefore hrun
      simp only [Driver.releaseRead, hrun, hrun']
      exact hreturns
  | some run =>
      obtain ⟨deadline, hrun'⟩ := h.engine.run hrun
      cases hopen : run.openTick with
      | none =>
          simp only [Driver.releaseRead, hrun, hrun', hopen, Run.later, Option.map_none]
          exact hreturns
      | some tick =>
          have hopen' : (run.later before.engine deadline).openTick =
              some (tick.later before.engine.store.snapshot.bridgeEpoch) := by
            rw [Run.later, hopen, Option.map_some]
          simp only [Driver.releaseRead, hrun, hrun', hopen, hopen']
          exact hreturns.completeTick hrun hrun' hopen hopen'

theorem start (h : before.Repeats d d') :
    before.Repeats d.start.1 d'.start.1 ∧ d'.start.2 = d.start.2 := by
  obtain ⟨hengine, houtcome⟩ := h.engine.start
  obtain ⟨left, hleft, heq⟩ := h.delivery
  simp only [Driver.start]
  generalize d.engine.start = started at hengine houtcome
  generalize d'.engine.start = started' at hengine houtcome
  obtain ⟨e, outcome⟩ := started
  obtain ⟨e', outcome'⟩ := started'
  simp only at hengine houtcome
  subst houtcome
  cases outcome' with
  | done =>
      refine ⟨⟨hengine, ⟨left, hleft, ?_⟩, h.readHeld⟩, rfl⟩
      obtain ⟨aside, -, rfl⟩ := hengine.later
      rw [heq]
      exact Delivery.openStream_later _ _ left d.delivery _ _
  | refused error => exact ⟨⟨hengine, ⟨left, hleft, heq⟩, h.readHeld⟩, rfl⟩
  | brokenOff => exact ⟨⟨hengine, ⟨left, hleft, heq⟩, h.readHeld⟩, rfl⟩

theorem stop (h : before.Repeats d d') :
    before.Repeats d.stop.1 d'.stop.1 ∧ d'.stop.2 = d.stop.2 := by
  obtain ⟨hengine, houtcome⟩ := h.engine.stop
  obtain ⟨left, hleft, heq⟩ := h.delivery
  simp only [Driver.stop]
  generalize d.engine.stop = stopped at hengine houtcome
  generalize d'.engine.stop = stopped' at hengine houtcome
  obtain ⟨e, outcome⟩ := stopped
  obtain ⟨e', outcome'⟩ := stopped'
  simp only at hengine houtcome
  subst houtcome
  cases outcome' with
  | done =>
      refine ⟨⟨hengine, ⟨left, hleft, ?_⟩, h.readHeld⟩, rfl⟩
      simp only [heq, Delivery.closeStream_later]
  | refused error => exact ⟨⟨hengine, ⟨left, hleft, heq⟩, h.readHeld⟩, rfl⟩
  | brokenOff => exact ⟨⟨hengine, ⟨left, hleft, heq⟩, h.readHeld⟩, rfl⟩

/-- Every command that spares the earlier streams is answered alike. -/
theorem step (h : before.Repeats d d') (hbefore : before.Detached) {command : Command β}
    (hspares : command.Spares before) :
    before.Repeats (d.step command).1 (d'.step (command.since before.engine.attempts)).1 ∧
      (d'.step (command.since before.engine.attempts)).2 = (d.step command).2 := by
  have hreply : ∀ {o o' : Outcome}, o' = o → Reply.outcome o' = .outcome o := congrArg Reply.outcome
  cases command with
  | start => exact ⟨h.start.1, hreply h.start.2⟩
  | stop => exact ⟨h.stop.1, hreply h.stop.2⟩
  | tick lag => exact ⟨(h.tick lag).1, congrArg Reply.tick (h.tick lag).2⟩
  | register kind consumer =>
      exact ⟨(h.register kind consumer).1, hreply (h.register kind consumer).2⟩
  | configure command => exact ⟨(h.configure command).1, hreply (h.configure command).2⟩
  | hold kind => exact ⟨h.setHold kind true, rfl⟩
  | unhold kind => exact ⟨h.setHold kind false, rfl⟩
  | release kind => exact ⟨h.release hbefore hspares, rfl⟩
  | finish k kind => exact ⟨h.finish hbefore hspares kind, rfl⟩
  | holdRead => exact ⟨⟨h.engine, h.delivery, rfl⟩, rfl⟩
  | releaseRead =>
      have hnone : before.engine.run = none := by
        by_contra hsome
        exact hspares (hbefore.read (Option.isSome_iff_ne_none.mpr hsome))
      exact ⟨h.releaseRead hnone, rfl⟩
  | disturb change => exact ⟨⟨h.engine.disturb change, h.delivery, h.readHeld⟩, rfl⟩

/-- So is every run of such commands. -/
theorem runAll (hbefore : before.Detached) (commands : List (Command β)) :
    ∀ {d d' : Driver β}, before.Repeats d d' → (∀ command ∈ commands, command.Spares before) →
      before.Repeats (d.after commands)
          (d'.after (commands.map (Command.since before.engine.attempts))) ∧
        (d'.runAll (commands.map (Command.since before.engine.attempts))).2 =
          (d.runAll commands).2 := by
  induction commands with
  | nil => exact fun h _ => ⟨h, rfl⟩
  | cons command rest ih =>
      intro d d' h hspares
      obtain ⟨hcommand, hrest⟩ := List.forall_mem_cons.mp hspares
      obtain ⟨hstep, hreply⟩ := h.step hbefore hcommand
      obtain ⟨hafter, hreplies⟩ := ih hstep hrest
      exact ⟨hafter, congrArg₂ List.cons hreply hreplies⟩

end Repeats

/-! ### Two histories -/

/-- A driver to which nothing has happened, with the board, settings and consumers of this
one. -/
def renewed (d : Driver β) : Driver β where
  engine := d.engine.renewed
  delivery := d.delivery.renewed
  readHeld := d.readHeld

/-- Both drivers are stopped, and nothing is different that the surroundings or the user have
in their hands: the settings, the board and the button, the consumers in place and which of
them are held. No event consumer is still inside a call. All else may differ that earlier
streams left: their numbers, counters and logs, the epochs, the calls of data consumers, and
whatever else they ended with. -/
structure StopsAlike (d d' : Driver β) : Prop where
  engine : d.engine.StopsAlike d'.engine
  consumers : ∀ kind, (d'.delivery.registration kind).current = (d.delivery.registration kind).current
  holds : d'.delivery.holds = d.delivery.holds
  readHeld : d'.readHeld = d.readHeld
  returned : ∀ o ∈ d.delivery.retired, o.eventCall = none
  returned' : ∀ o ∈ d'.delivery.retired, o.eventCall = none

/-- What commands add to a driver: what happens to what its streams publish, and what it
counts of that and of its ticks. -/
structure Growth where
  events : List DeliveryEvent
  deliveries : DeliveryCounters
  ticks : TickCounters

/-- From `d` on the driver grew by this, if streams are numbered from then on and it is not
counted how many ticks were late. -/
structure Grows (d : Driver β) (growth : Growth) (d' : Driver β) : Prop where
  events : d'.delivery.log.toList =
    d.delivery.log.toList ++ growth.events.map (DeliveryEvent.later d.engine.attempts)
  deliveries : d'.delivery.counters = d.delivery.counters + growth.deliveries
  ticks : d'.engine.counters.untimed = (d.engine.counters + growth.ticks).untimed

theorem Repeats.grows {before d d' : Driver β} (h : before.Repeats d d') :
    before.Grows ⟨d.delivery.log.toList, d.delivery.counters, d.engine.counters⟩ d' := by
  obtain ⟨aside, -, hengine⟩ := h.engine.later
  obtain ⟨left, -, hdelivery⟩ := h.delivery
  refine ⟨?_, by rw [hdelivery]; rfl, by rw [hengine]; rfl⟩
  rw [hdelivery]
  simp only [Delivery.later, Consumers.later, Array.toList_append, Array.toList_map]

/-- What a stopped driver keeps of its streams, if no event consumer is inside a call. -/
theorem detached {d : Driver β} (hd : d.Sound) (hstopped : d.engine.phase = .stopped)
    (hreturned : ∀ o ∈ d.delivery.retired, o.eventCall = none) : d.Detached where
  outlets o ho := ⟨(hd.delivery.tidy.retired o ho).1, hd.deliveryNumbered.retired o ho, hreturned o ho⟩
  read hrun := by
    have hne : d.engine.phase ≠ .running := by simp [hstopped]
    exact (hd.coherent.running.mp hrun).resolve_left fun hsampling =>
      hne (hd.coherent.sampling.mpr hsampling)

theorem StopsAlike.refl {d d' : Driver β} (h : d.StopsAlike d') : d.StopsAlike d where
  engine := ⟨h.engine.stopped, h.engine.stopped, rfl, rfl, rfl, rfl, rfl, rfl, rfl, rfl⟩
  consumers _ := rfl
  holds := rfl
  readHeld := rfl
  returned := h.returned
  returned' := h.returned

section Board

variable [Board β]

/-- The driver after these commands, which number streams from now on. -/
def goneOn (d : Driver β) (commands : List (Command β)) : Driver β :=
  d.after (commands.map (Command.since d.engine.attempts))

/-- The replies to these commands, which number streams from now on. -/
def repliesTo (d : Driver β) (commands : List (Command β)) : List Reply :=
  (d.runAll (commands.map (Command.since d.engine.attempts))).2

/-- These commands are answered alike by both drivers, do the same in both, and leave them
with equal boards and answers. -/
structure GoesOnLike (d d' : Driver β) (commands : List (Command β)) : Prop where
  replies : d'.repliesTo commands = d.repliesTo commands
  grow : ∃ growth, d.Grows growth (d.goneOn commands) ∧ d'.Grows growth (d'.goneOn commands)
  board : (d'.goneOn commands).engine.board = (d.goneOn commands).engine.board
  phase : (d'.goneOn commands).engine.phase = (d.goneOn commands).engine.phase
  get : ∀ document,
    (d'.goneOn commands).engine.get document = (d.goneOn commands).engine.get document
  apply : ∀ document,
    ((d'.goneOn commands).engine.apply document).2 = ((d.goneOn commands).engine.apply document).2

/-- A driver that stopped alike repeats what a new one does. -/
theorem StopsAlike.repeats {d d' : Driver β} (h : d.StopsAlike d') (hd : d.Reachable)
    (hd' : d'.Reachable) : d'.Repeats d.renewed d' := by
  have hfrozen : ∀ {d : Driver β}, d.Reachable → d.engine.phase = .stopped →
      d.engine.store.frozen = false := by
    intro d hd hstopped
    exact Bool.eq_false_iff.mpr fun hfrozen => hd.freezes.mp hfrozen hstopped
  have hcurrent : d'.delivery.current = none := by
    rw [← Option.not_isSome_iff_eq_none, ← hd'.sound.running, h.engine.stopped']
    simp
  refine ⟨h.engine.repeats ?_ hd'.sound.coherent, ⟨d'.delivery.retired, fun _ => id, ?_⟩, h.readHeld⟩
  · rw [hfrozen hd' h.engine.stopped', hfrozen hd h.engine.stopped]
  · exact (Delivery.later_renewed _ hcurrent h.consumers h.holds).symm

/-- Two drivers that stopped alike go on alike, whatever streams they had before. What they have
to have in common beyond settings, boards, buttons and consumers is needed
(`restarts_part_ways`). -/
theorem restarts_alike {d d' : Driver β} (hd : d.Reachable) (hd' : d'.Reachable)
    (h : d.StopsAlike d') {commands : List (Command β)}
    (hspares : ∀ command ∈ commands, command.Spares d ∧ command.Spares d') :
    d.GoesOnLike d' commands := by
  obtain ⟨hrepeats, hreplies⟩ := Repeats.runAll
    (detached hd.sound h.engine.stopped h.returned) commands (h.refl.repeats hd hd)
    fun command hcommand => (hspares command hcommand).1
  obtain ⟨hrepeats', hreplies'⟩ := Repeats.runAll
    (detached hd'.sound h.engine.stopped' h.returned') commands (h.repeats hd hd')
    fun command hcommand => (hspares command hcommand).2
  refine ⟨hreplies'.trans hreplies.symm, ⟨_, hrepeats.grows, hrepeats'.grows⟩, ?_, ?_, ?_, ?_⟩
  · exact hrepeats'.engine.board.trans hrepeats.engine.board.symm
  · exact hrepeats'.engine.phase.trans hrepeats.engine.phase.symm
  · exact fun document => (hrepeats'.engine.get document).trans (hrepeats.engine.get document).symm
  · exact fun document =>
      (hrepeats'.engine.apply document).trans (hrepeats.engine.apply document).symm

/-- A history with a fault, a batch whose consumer has not returned, and a row that waits for
the rest of its batch. The bridge is selected twice, and the surroundings put the board back
in the end. -/
def eventful : List (Command Board.Scripted) :=
  [.configure (.preset .identity), .register .error "alarm", .hold .data, .start, .tick 0, .tick 0,
    .tick 0, .tick 0, .tick 0, .configure (.setBridge 1), .configure (.setBridge 0), .stop,
    .unhold .data, .disturb fun _ => scriptedDriver.engine.board]

/-- A history without any stream. -/
def uneventful : List (Command Board.Scripted) :=
  [.configure (.preset .identity), .register .error "alarm"]

/-- A stream of four ticks, of which the last two bring a batch. -/
def fourTicks : List (Command Board.Scripted) :=
  [.start, .tick 0, .tick 0, .tick 0, .tick 0, .finish 1 .data, .stop]

set_option maxRecDepth 1024 in
theorem restarts_alike_scripted :
    (scriptedDriver.after eventful).Reachable ∧ (scriptedDriver.after uneventful).Reachable ∧
      (scriptedDriver.after eventful).StopsAlike (scriptedDriver.after uneventful) ∧
      (∀ command ∈ fourTicks, command.Spares (scriptedDriver.after eventful) ∧
        command.Spares (scriptedDriver.after uneventful)) ∧
      (scriptedDriver.after eventful).delivery.retired.length = 1 ∧
      ((scriptedDriver.after uneventful).goneOn fourTicks).delivery.counters.rowsDelivered = 2 ∧
      (scriptedDriver.after eventful).GoesOnLike (scriptedDriver.after uneventful) fourTicks := by
  have hd : (scriptedDriver.after eventful).Reachable := .of_build scripted_build eventful
  have hd' : (scriptedDriver.after uneventful).Reachable := .of_build scripted_build uneventful
  have halike : (scriptedDriver.after eventful).StopsAlike (scriptedDriver.after uneventful) :=
    { engine := ⟨rfl, rfl, rfl, rfl, rfl, rfl, rfl, rfl, rfl, Engine.sameGrace_of_slowest (by decide) _⟩
      consumers := fun kind => by cases kind <;> decide
      holds := rfl
      readHeld := rfl
      returned := by decide
      returned' := by decide }
  have hspares : ∀ command ∈ fourTicks, command.Spares (scriptedDriver.after eventful) ∧
      command.Spares (scriptedDriver.after uneventful) := by
    simp [fourTicks, Command.Spares]
  exact ⟨hd, hd', halike, hspares, by decide, by decide, restarts_alike hd hd' halike hspares⟩

/-! ### What else has to be alike -/

omit [Board β] in
/-- The driver `d'`, if its board were where `d` has its own and if both had tried the same rate
last. -/
def placedLike (d' d : Driver β) : Driver β :=
  { d' with engine := { d'.engine with
      custody := d.engine.custody
      latestRate := d.engine.latestRate } }

/-- Two drivers whose settings, boards, buttons and consumers stopped alike, and which do not go
on alike. -/
structure PartsWays (d d' : Driver β) (commands : List (Command β)) : Prop where
  reachable : d.Reachable
  reachable' : d'.Reachable
  alike : d.StopsAlike (d'.placedLike d)
  spares : ∀ command ∈ commands, command.Spares d ∧ command.Spares d'
  parts : ¬d.GoesOnLike d' commands

/-- A driver at the fastest rate. -/
def hasty (readTimeout : Duration) : DriverPlan Rig.RiggedBoard where
  board := some { inner := .scripted {} }
  config := { sampleRate := 48000, readTimeout := readTimeout }

/-- The driver that is built from it. -/
def hastyDriver (readTimeout : Duration) : Driver Rig.RiggedBoard where
  engine := (hasty readTimeout).engine { inner := .scripted {} }
    (.ofShape (hasty readTimeout).config.shape)

theorem hasty_build {readTimeout : Duration} (h : readTimeout ≠ 0) :
    (hasty readTimeout).build = .ok (hastyDriver readTimeout) := by
  have hlimit : exceededLimit? (hasty readTimeout).config (hasty readTimeout).button = none := by
    simp [exceededLimit?, hasty, h, Settings.maxSampleRate]
  simp only [DriverPlan.build, hlimit]
  rfl

/-- The next switch of the board fails. -/
def jam : Command Rig.RiggedBoard := .disturb fun b => { b with measureFaults := [.failLine] }

/-- A stop while a read is held. -/
def stoppedInRead : Driver Rig.RiggedBoard :=
  (hastyDriver (.millis 5)).after [.start, .holdRead, .tick 0, .stop]

/-- A stop that cannot switch the board off, with the same board afterwards. -/
def stoppedJammed : Driver Rig.RiggedBoard :=
  (hastyDriver (.millis 5)).after [.start, .holdRead, jam, .stop]

/-- As long as a read of an earlier stream holds the board no other stream starts. -/
theorem parted_by_custody : PartsWays stoppedInRead stoppedJammed [.start] where
  reachable := .of_build (hasty_build (by decide)) _
  reachable' := .of_build (hasty_build (by decide)) _
  alike :=
    { engine := ⟨rfl, rfl, rfl, rfl, rfl, rfl, rfl, rfl, rfl, rfl⟩
      consumers := fun kind => by cases kind <;> rfl
      holds := rfl
      readHeld := rfl
      returned := by decide
      returned' := by decide }
  spares := by simp [Command.Spares]
  parts h := absurd h.replies (by decide)

/-- A start that fails, in a driver whose stops wait almost as long as a duration can be. -/
def triedFast : Driver Rig.RiggedBoard :=
  (hastyDriver (Duration.longest - .millis 2000)).after [jam, .start]

/-- The same at the slowest rate, which is set back. -/
def triedSlow : Driver Rig.RiggedBoard :=
  (hastyDriver (Duration.longest - .millis 2000)).after
    [.configure (.setSampleRate 1), jam, .start, .configure (.setSampleRate 48000)]

/-- A start first computes how long it may wait for the stream before it, at the rate that was
tried last. For a rate that no stream ever had this may be too long to be represented. -/
theorem parted_by_rate : PartsWays triedFast triedSlow [.start] where
  reachable := .of_build (hasty_build (by decide)) _
  reachable' := .of_build (hasty_build (by decide)) _
  alike :=
    { engine := ⟨rfl, rfl, rfl, rfl, rfl, rfl, rfl, rfl, rfl, rfl⟩
      consumers := fun kind => by cases kind <;> rfl
      holds := rfl
      readHeld := rfl
      returned := by decide
      returned' := by decide }
  spares := by simp [Command.Spares]
  parts h := absurd h.replies (by decide)

/-- Neither can be left out of `restarts_alike`, where the board is or the rate that was tried
last: of two drivers that differ in one of them alone, one starts and the other does not. -/
theorem restarts_part_ways :
    (PartsWays stoppedInRead stoppedJammed [.start] ∧
      stoppedJammed.engine.latestRate = stoppedInRead.engine.latestRate ∧
      stoppedInRead.start.2 =
        .refused (.acquisitionFault "previous stream has not released the hardware") ∧
      stoppedJammed.start.2 = .done) ∧
    PartsWays triedFast triedSlow [.start] ∧
      triedSlow.engine.custody = triedFast.engine.custody ∧
      triedFast.start.2 = .done ∧ triedSlow.start.2 = .brokenOff :=
  ⟨⟨parted_by_custody, rfl, rfl, rfl⟩, parted_by_rate, rfl, rfl, rfl⟩

end Board

end QuadDaq.Driver

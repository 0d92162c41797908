import QuadDaq.Proofs.Delivery.Callees
import QuadDaq.Proofs.Delivery.Fates
import QuadDaq.Proofs.Driver.Presses
import QuadDaq.Proofs.Driver.Separation

/-!
# What becomes of the transitions

**Every published transition waits or has one fate, which has its cause**
(`transitions_accounted`): it was delivered to a registered consumer, or evicted from a full
queue, or it waited when its stream was stopped. Otherwise it went unclaimed, because the
consumer that was registered last had not returned from a call of an earlier stream. Nothing
counts or reports that (`unclaimed_after_restart`).
-/

namespace QuadDaq

open Relation (ReflTransGen)

/-- A stream with published transitions is known. -/
theorem Engine.knows_of_transitions {β : Type} {e : Engine β} {k : Nat} {t : Transition}
    (h : (k, t) ∈ e.transitions) : e.Knows k := by
  obtain ⟨⟨k', signal⟩, hsignal, htransition⟩ := List.mem_filterMap.mp h
  obtain ⟨t', -, heq⟩ := Option.map_eq_some_iff.mp htransition
  obtain rfl : k' = k := congrArg Prod.fst heq
  exact .inl ⟨_, Engine.mem_published.mp hsignal, rfl⟩

namespace Driver

variable {β : Type} {d : Driver β}

section Board

variable [Board β]

/-! ### Consumers that were registered -/

/-- One of the commands registers the event consumer, and is not refused. -/
def Registers (d : Driver β) (commands : List (Command β)) (kind : EventKind) (consumer : String) :
    Prop :=
  ∃ front back, commands = front ++ .register kind consumer :: back ∧
    ((d.after front).register kind consumer).2 = .done

theorem Registers.append {commands : List (Command β)} {kind : EventKind} {consumer : String}
    (h : d.Registers commands kind consumer) (more : List (Command β)) :
    d.Registers (commands ++ more) kind consumer := by
  obtain ⟨front, back, rfl, hdone⟩ := h
  exact ⟨front, back ++ more, by rw [List.append_assoc, List.cons_append], hdone⟩

theorem completeTick_callsOnly {known : EventKind → String → Prop}
    (h : d.delivery.CallsOnly known) (run : Run) (tick : OpenTick) :
    (d.completeTick run tick).delivery.CallsOnly known :=
  (h.publishAll run.stream (d.engine.endTick run tick).2).deliver

/-- A command calls those who were registered before, or registers somebody. -/
theorem step_callsOnly {known : EventKind → String → Prop} (h : d.delivery.CallsOnly known)
    (command : Command β)
    (hknown : ∀ kind consumer, command = .register kind consumer →
      (d.register kind consumer).2 = .done → known kind consumer) :
    (d.step command).1.delivery.CallsOnly known := by
  cases command with
  | start =>
      rcases d.start_delivery_cases with heq | ⟨k, capacity, heq⟩
      · rw [step, heq]
        exact h
      · rw [step, heq]
        exact h.openStream k capacity
  | stop =>
      rcases d.stop_delivery_cases with heq | heq
      · rw [step, heq]
        exact h
      · rw [step, heq]
        exact h.closeStream
  | tick lag =>
      simp only [step]
      rcases d.tick_cases lag with ⟨-, heq⟩ | ⟨run, run', tick, -, -, -, -, -, -, heq⟩
      · rw [heq]
        exact h
      · have hbegun : (d.begun run lag).delivery.CallsOnly known :=
          h.publishAll run.stream (d.engine.beginTick run lag).2
        rw [heq]
        split
        · exact hbegun.deliver
        · exact completeTick_callsOnly hbegun run' tick
  | releaseRead =>
      simp only [step]
      rcases d.releaseRead_cases with ⟨run, tick, -, -, heq⟩ | ⟨-, heq⟩
      · rw [heq]
        exact completeTick_callsOnly (d := { d with readHeld := false }) h run tick
      · rw [heq]
        exact h
  | register kind consumer =>
      have hdone := hknown kind consumer rfl
      simp only [step, register] at hdone ⊢
      split
      · exact h
      · next hphase =>
          rw [if_neg hphase] at hdone
          exact h.register (hdone rfl)
  | configure command => exact h
  | hold kind => exact h.setHold kind true
  | unhold kind => exact h.setHold kind false
  | release kind => exact (h.setHold kind false).endCalls (fun _ => true) kind
  | finish stream kind => exact h.endCalls (· == stream) kind
  | holdRead => exact h
  | disturb change => exact h

/-- Whom a run calls it has registered before. -/
theorem callsOnly_after {plan : DriverPlan β} {new : Driver β} (hbuild : plan.build = .ok new)
    (commands : List (Command β)) :
    (new.after commands).delivery.CallsOnly (new.Registers commands) := by
  induction commands using List.reverseRecOn with
  | nil =>
      obtain ⟨board, store, -, -, rfl⟩ := build_inv hbuild
      refine ⟨fun kind consumer hplace => ?_, by simp [Delivery.outlets], by simp⟩
      cases kind <;> cases hplace
  | append_singleton commands command ih =>
      rw [after_append]
      refine step_callsOnly (ih.mono fun _ _ h => h.append [command]) command ?_
      rintro kind consumer rfl hdone
      exact ⟨commands, [], rfl, hdone⟩

/-! ### Causes of fates -/

/-- What brings a command to settle a fate. -/
inductive Decides (d : Driver β) (command : Command β) (s : Settlement) : Prop
  /-- A worker takes the transition. -/
  | taken : s.fate.isTaken → Decides d command s
  /-- Another transition needs its room. -/
  | evicted : s.fate = .evicted → d.delivery.EvictsNext s.published → Decides d command s
  /-- The stream stops before it is delivered. -/
  | discarded :
      s.fate = .discarded →
      command.isStop →
      s.published ∈ d.delivery.waitingTransitions →
      Decides d command s

omit [Board β] in
theorem turns_decide {command : Command β} {v v' : Delivery}
    (h : ReflTransGen Delivery.Turn v v') :
    Consumers.Settles (d.Decides command) v.toConsumers v'.toConsumers :=
  (Delivery.turns_settles h).mono fun _ => .taken

/-- The second half of a tick publishes no transition. -/
theorem completeTick_decides {command : Command β} (d₁ : Driver β) (run : Run) (tick : OpenTick) :
    Consumers.Settles (d.Decides command) d₁.delivery.toConsumers
      (d₁.completeTick run tick).delivery.toConsumers := by
  have hnone := List.filterMap_eq_nil_iff.mp (d₁.engine.filterMap_transition?_endTick run tick)
  exact .trans (.of_eq (Delivery.publishAll_settled_of_none _ _ hnone d₁.delivery).1)
    (turns_decide (Delivery.deliver_turns _))

/-- The first half publishes one transition at most. -/
theorem begun_decides {command : Command β} (hd : d.Reachable) {run : Run} (lag : Duration)
    (hready : d.readiness = .done) (hrun : d.engine.run = some run) :
    Consumers.Settles (d.Decides command) d.delivery.toConsumers
      (d.begun run lag).delivery.toConsumers := by
  obtain ⟨routing, t?, hsignals, hrouted, -⟩ := d.engine.beginTick_signals run lag
  have hnone := List.filterMap_eq_nil_iff.mp hrouted.filterMap_transition?
  obtain ⟨o, ho⟩ := Option.isSome_iff_exists.mp (hd.sound.running.mp (readiness_eq_done.mp hready).1)
  have hpublished := Delivery.publishAll_settles hnone t? ho (hd.sound.stream o ho run hrun).symm
    (hd.keepsTransitions.capacity o ho)
  rw [← hsignals] at hpublished
  exact hpublished.mono fun _ h => .evicted h.1 h.2

/-- Every fate that a command settles has its cause. -/
theorem step_decides (hd : d.Reachable) (command : Command β) :
    Consumers.Settles (d.Decides command) d.delivery.toConsumers
      (d.step command).1.delivery.toConsumers := by
  cases command with
  | start =>
      rcases d.start_delivery_cases with heq | ⟨k, capacity, heq⟩
      · exact .of_eq (by rw [step, heq])
      · exact .of_eq (by rw [step, heq]; rfl)
  | stop =>
      rcases d.stop_delivery_cases with heq | heq
      · exact .of_eq (by rw [step, heq])
      · rw [step, heq]
        exact d.delivery.closeStream_settles.mono fun _ h => .discarded h.1 rfl h.2
  | tick lag =>
      simp only [step]
      rcases d.tick_cases lag with ⟨-, heq⟩ | ⟨run, run', tick, hready, hrun, -, -, -, -, heq⟩
      · rw [heq]
        exact .of_eq rfl
      · have hbegun : Consumers.Settles (d.Decides (.tick lag)) d.delivery.toConsumers
            (d.begun run lag).delivery.toConsumers := begun_decides hd lag hready hrun
        rw [heq]
        split
        · exact hbegun.trans (turns_decide (Delivery.deliver_turns _))
        · exact hbegun.trans (completeTick_decides _ run' tick)
  | releaseRead =>
      simp only [step]
      rcases d.releaseRead_cases with ⟨run, tick, -, -, heq⟩ | ⟨-, heq⟩
      · rw [heq]
        exact completeTick_decides { d with readHeld := false } run tick
      · exact .of_eq (by rw [heq])
  | register kind consumer =>
      simp only [step, register]
      split
      · exact .of_eq rfl
      · exact turns_decide (.single (.registered d.delivery kind consumer))
  | configure command => exact .of_eq rfl
  | hold kind => exact turns_decide (.single (.held d.delivery kind true))
  | unhold kind => exact turns_decide (.single (.held d.delivery kind false))
  | release kind => exact turns_decide (Delivery.release_turns d.delivery kind)
  | finish stream kind => exact turns_decide (Delivery.finish_turns d.delivery stream kind)
  | holdRead => exact .of_eq rfl
  | disturb change => exact .of_eq rfl

/-- As long as the consumer that was registered last has returned from the calls of earlier
streams, no transition goes unclaimed. -/
theorem step_detained (hd : d.Reachable) (hregistered : d.delivery.Registered .button)
    (command : Command β) :
    Consumers.Settles (fun s => s.fate = .unclaimed → d.delivery.Detained .button)
      d.delivery.toConsumers (d.step command).1.delivery.toConsumers := by
  by_cases hdetained : d.delivery.Detained .button
  · exact (step_decides hd command).mono fun _ _ _ => hdetained
  · have hfree : d.delivery.Free .button :=
      ⟨hd.attended, hd.sound.delivery.tidy, hregistered, hdetained⟩
    exact (step_claims hd.sound hfree command).1.settles.mono fun _ hne heq => absurd heq hne

/-- The command that follows these settles the fate of the transition. -/
structure SettledBy (new : Driver β) (front : List (Command β)) (command : Command β)
    (s : Settlement) : Prop where
  decides : (new.after front).Decides command s
  /-- Whom it was delivered to was registered. -/
  registered : ∀ consumer, s.fate = .delivered consumer →
    new.Registers (front ++ [command]) .button consumer
  /-- It went unclaimed only because the consumer that was registered last had not returned from
  a call of a stream that was stopped. -/
  detained : s.fate = .unclaimed → (new.after front).delivery.Detained .button

variable {plan : DriverPlan β} {new : Driver β}

theorem step_settledBy (hbuild : plan.build = .ok new) {front : List (Command β)}
    (hregistered : (new.after front).delivery.Registered .button) (command : Command β) :
    Consumers.Settles (new.SettledBy front command) (new.after front).delivery.toConsumers
      (new.after (front ++ [command])).delivery.toConsumers := by
  have hd : (new.after front).Reachable := .of_build hbuild _
  obtain ⟨added, hsettled, hadded⟩ :=
    (step_decides hd command).and (step_detained hd hregistered command)
  have hcalls := callsOnly_after hbuild (front ++ [command])
  have hlast : (new.after (front ++ [command])).delivery = ((new.after front).step command).1.delivery :=
    congrArg delivery (after_append new front [command])
  refine ⟨added, by rw [hlast, hsettled], fun s hs => ?_⟩
  obtain ⟨hdecides, hdetained⟩ := hadded s hs
  refine ⟨hdecides, fun consumer hfate => ?_, hdetained⟩
  refine Consumers.CallsOnly.delivered hcalls ?_ hfate
  rw [hlast, hsettled]
  exact List.mem_append_right _ hs

/-- Each fate that is settled in a run from `before` on is so by one of its commands. -/
theorem settledBy_after (hbuild : plan.build = .ok new) {before : List (Command β)}
    (hregistered : (new.after before).delivery.Registered .button) (rest : List (Command β)) :
    ∀ s ∈ (new.after (before ++ rest)).delivery.settled,
      s ∈ (new.after before).delivery.settled ∨
      ∃ front command back, before ++ rest = front ++ command :: back ∧
        new.SettledBy front command s := by
  induction rest using List.reverseRecOn with
  | nil =>
      intro s hs
      rw [List.append_nil] at hs
      exact .inl hs
  | append_singleton rest command ih =>
      intro s hs
      have hstill : (new.after (before ++ rest)).delivery.Registered .button := by
        rw [after_append]
        exact delivery_induction (P := fun v => v.Registered .button)
          (fun _ _ _ _ hchange => hchange.registered) ((sound_of_build hbuild).after before)
          hregistered rest
      obtain ⟨added, hsettled, hadded⟩ := step_settledBy hbuild hstill command
      rw [← List.append_assoc] at hs ⊢
      rw [hsettled, List.mem_append] at hs
      rcases hs with hold | hnew
      · refine (ih s hold).imp_right ?_
        rintro ⟨front, command', back, heq, hcause⟩
        exact ⟨front, command', back ++ [command], by rw [heq, List.append_assoc, List.cons_append],
          hcause⟩
      · exact .inr ⟨before ++ rest, command, [], rfl, hadded s hnew⟩

/-! ### Main result -/

/-- No transition is published before the first start, so no fate is settled. -/
theorem settled_before_start (hbuild : plan.build = .ok new) {before : List (Command β)}
    (hbefore : .start ∉ before) : (new.after before).delivery.settled = [] := by
  have hd : (new.after before).Reachable := .of_build hbuild _
  have hnew : ∀ k, ¬new.engine.Knows k := by
    obtain ⟨board, store, -, -, rfl⟩ := build_inv hbuild
    rintro k (⟨event, hevent, -⟩ | ⟨run, hrun, -⟩)
    · simp [Engine.course, courseOf, DriverPlan.engine] at hevent
    · cases hrun
  have hnone : (new.after before).engine.transitions = [] := by
    rw [List.eq_nil_iff_forall_not_mem]
    rintro ⟨k, t⟩ ht
    obtain ⟨front, back, hbegins⟩ := begins_of_knows before (sound_of_build hbuild) (hnew k)
      (Engine.knows_of_transitions ht)
    refine hbefore ?_
    rw [hbegins.split]
    exact List.mem_append_right _ List.mem_cons_self
  have hperm := hd.keepsTransitions.perm
  rw [hd.sound.receivedTransitions_eq, hnone] at hperm
  exact List.map_eq_nil_iff.mp (List.append_eq_nil_iff.mp hperm.nil_eq.symm).1

/-- What becomes of the transitions of a driver that was built, after these commands. -/
structure AccountsForTransitions (new : Driver β) (commands : List (Command β)) : Prop where
  /-- A published transition has a fate or waits, -/
  fates : (new.after commands).engine.transitions.Perm
    ((new.after commands).delivery.settled.map Settlement.published ++
      (new.after commands).delivery.waitingTransitions)
  /-- but not both, and it has no second fate. -/
  once : ((new.after commands).delivery.settled.map Settlement.published ++
    (new.after commands).delivery.waitingTransitions).Nodup
  /-- It waits only while its stream runs, -/
  waiting : (new.after commands).engine.phase ≠ .running →
    (new.after commands).delivery.waitingTransitions = []
  /-- and one of the commands settles its fate. -/
  causes : ∀ s ∈ (new.after commands).delivery.settled, ∃ front command back,
    commands = front ++ command :: back ∧ new.SettledBy front command s
  /-- Evictions are counted, -/
  counted : (new.after commands).delivery.counters.droppedEvents =
    ((new.after commands).delivery.settledAs .evicted).length
  /-- and each one is reported. -/
  reported : (((new.after commands).delivery.settledAs .evicted).map
    fun p => (p.1, (Loss.transition p.2).report)).Sublist (new.after commands).delivery.reports

/-- If a button consumer is registered before the first start, then every published transition is
accounted for, whatever the commands are. -/
theorem transitions_accounted (hbuild : plan.build = .ok new) {before : List (Command β)}
    (hbefore : .start ∉ before) (hregistered : (new.after before).delivery.Registered .button)
    (rest : List (Command β)) : new.AccountsForTransitions (before ++ rest) := by
  have hd : (new.after (before ++ rest)).Reachable := .of_build hbuild _
  have hfates := hd.keepsTransitions.perm
  rw [hd.sound.receivedTransitions_eq] at hfates
  refine ⟨hfates, ?_, fun hphase => ?_, fun s hs => ?_, hd.keepsTransitions.counted,
    Delivery.evictions_reported _⟩
  · have hcounters : ((new.after (before ++ rest)).engine.transitions.map
        (Transition.counter ∘ Prod.snd)).Nodup := by
      rw [← List.map_map, hd.countsPresses.transitions, Transition.nth_counters]
      exact List.nodup_range'
    exact hfates.nodup_iff.mp (hcounters.of_map _)
  · rw [ne_eq, hd.sound.running, Option.not_isSome_iff_eq_none] at hphase
    simp only [Delivery.waitingTransitions, hphase, Option.toList_none, List.flatMap_nil]
  · refine (settledBy_after hbuild hregistered rest s hs).resolve_left fun hold => ?_
    rw [settled_before_start hbuild hbefore] at hold
    cases hold

end Board

/-- A button consumer is inside a call of the first stream while the second one runs. -/
def overRestart : List (Command Rig.RiggedBoard) :=
  [.hold .button, .start, .tick 0, .stop, .start, .tick 0, .release .button, .tick 0, .stop]

theorem transitions_accounted_over_restart :
    (pressing [true, false, true]).build = .ok (pressingDriver [true, false, true]) ∧
      .start ∉ ([.register .button "only"] : List (Command Rig.RiggedBoard)) ∧
      ((pressingDriver [true, false, true]).after [.register .button "only"]).delivery.Registered
        .button ∧
      ((pressingDriver [true, false, true]).after
        (.register .button "only" :: overRestart)).delivery.settled =
          [⟨1, ⟨true, 1⟩, .delivered "only"⟩, ⟨2, ⟨false, 2⟩, .unclaimed⟩,
            ⟨2, ⟨true, 3⟩, .delivered "only"⟩] ∧
      (pressingDriver [true, false, true]).AccountsForTransitions
        (.register .button "only" :: overRestart) := by
  have hregistered : ((pressingDriver [true, false, true]).after
      [.register .button "only"]).delivery.Registered .button := by
    unfold Delivery.Registered
    decide
  have hbefore : .start ∉ ([.register .button "only"] : List (Command Rig.RiggedBoard)) := by simp
  exact ⟨pressing_build _, hbefore, hregistered, by decide,
    transitions_accounted (pressing_build _) hbefore hregistered overRestart⟩

/-- The second transition is neither delivered nor evicted nor discarded, and does not wait. Nothing
was counted. -/
theorem unclaimed_after_restart :
    let d := (pressingDriver [true, false, true]).after (.register .button "only" :: overRestart)
    (2, ⟨false, 2⟩) ∈ d.engine.transitions ∧
      (2, ⟨false, 2⟩) ∉ d.delivery.deliveredTransitions ∧
      (2, ⟨false, 2⟩) ∉ d.delivery.settledAs .evicted ∧
      (2, ⟨false, 2⟩) ∉ d.delivery.settledAs .discarded ∧
      (2, ⟨false, 2⟩) ∉ d.delivery.waitingTransitions ∧
      d.delivery.counters.droppedEvents = 0 := by
  decide

end Driver

end QuadDaq

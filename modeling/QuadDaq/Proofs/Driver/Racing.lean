import QuadDaq.Proofs.Driver.Routing
import QuadDaq.Proofs.Settings.Racing

/-!
# Settings committed in the middle of a start

**A start reads the store twice**: the board is routed to the bridge of the first snapshot,
and the sampler takes the epoch of the second one for seen. Other threads can commit settings
in between. `startAmid` is a start amid such commits; with none of them it is the start itself
(`startAmid_nil`).

**The stream goes on as if it had been started on one snapshot, with the bridge of the first
and the epoch of the second** (`startAmid_routed`). So it is routed coherently if and only if the
commits leave the same bridge selected. A selection that falls between the two reads is missed:
until a tick sees another epoch every read takes place on the earlier bridge
(`selection_missed_amid_start`).
-/

namespace QuadDaq

namespace Engine

variable {β : Type} [Board β] {e : Engine β} {commits : List Settings.Command}

/-- A start with settings committed between its two reads of the store: after the board was
armed, and before the sampler takes the epoch over. -/
def startAmid (e : Engine β) (commits : List Settings.Command) : Engine β × Outcome :=
  match e.start with
  | (_, .done) =>
    let armed := e.attempted.retimed.arm.1
    ({ armed with store := armed.store.writeAll commits }.launch, .done)
  | failed => failed

theorem startAmid_nil (e : Engine β) : e.startAmid [] = e.start := by
  unfold startAmid
  have hends := e.start_ends
  generalize e.start = ending at hends ⊢
  cases hends with
  | denied _ => rfl
  | unwaitable _ => rfl
  | obstructed _ _ => rfl
  | unarmed _ _ _ => rfl
  | brokenOff _ _ _ => rfl
  | launched _ _ harm => rw [harm]; rfl

/-- It starts the stream that a start on the second snapshot would, but has armed the board on
the first. -/
theorem startAmid_of_done [Board.Obliging β] (h : (e.startAmid commits).2 = .done) :
    e.phase = .stopped ∧ e.custody = .parked ∧
      ∃ board log, courseOf log = e.course ∧ callsOf log = e.calls ++ e.armCalls ∧
        (e.startAmid commits).1 =
          { e with store := e.store.freeze.writeAll commits }.started board log := by
  obtain ⟨board, log, harm, hcalls⟩ := arm_eq_ok e.attempted.retimed
  obtain ⟨_, _, _, harm', hcourse⟩ := arm_eq e.attempted.retimed
  cases harm.symm.trans harm'
  obtain ⟨hshape, hfrozen⟩ := Settings.Store.writeAll_frozen (s := e.store.freeze) rfl commits
  have hends := e.start_ends
  unfold startAmid at h ⊢
  generalize e.start = ending at hends h ⊢
  cases hends with
  | launched hphase hparked _ =>
      refine ⟨hphase, hparked, board, log, hcourse, hcalls, ?_⟩
      rw [harm, started, Settings.Store.freeze_of_frozen hfrozen, hshape]
      simp only [launch, plan]
      rfl
  | denied _ => cases h
  | unwaitable _ => cases h
  | obstructed _ _ => cases h
  | unarmed _ _ _ => cases h
  | brokenOff _ _ _ => cases h

end Engine

namespace Driver

open Relation (ReflTransGen)

variable {β : Type}

/-- Commits that are accepted while the shape is frozen could have come before the start. -/
theorem writeAll_moves {stops : Bool} (commits : List Settings.Command) :
    ∀ d : Driver β, ReflTransGen (Move stops) d { d with engine := { d.engine with
      store := { d.engine.store.freeze.writeAll commits with frozen := d.engine.store.frozen } } } := by
  induction commits with
  | nil => exact fun _ => .refl
  | cons command rest ih =>
      intro d
      cases hrun : command.run d.engine.store.freeze with
      | error refusal =>
          have hsame : d.engine.store.freeze.writeAll (command :: rest) =
              d.engine.store.freeze.writeAll rest :=
            congrArg (·.writeAll rest) (Settings.Store.perform_write_of_error hrun)
          rw [hsame]
          exact ih d
      | ok store =>
          have hwrote : d.engine.store.freeze.writeAll (command :: rest) = store.writeAll rest :=
            congrArg (·.writeAll rest) (Settings.Store.perform_write_of_ok hrun)
          have hfrozen : ({ store with frozen := d.engine.store.frozen } : Settings.Store).freeze =
              store :=
            Settings.Store.freeze_of_frozen (Settings.Command.run_frozen hrun)
          rw [hwrote]
          refine .head (.aside (.wrote (Settings.Store.run_of_freeze hrun)) rfl rfl Iff.rfl) ?_
          have hrest := ih { d with engine := { d.engine with
            store := { store with frozen := d.engine.store.frozen } } }
          simp only [hfrozen] at hrest
          exact hrest

variable [Board β]

/-- A start of a driver, with settings committed between its two reads of the store. -/
def startAmid (d : Driver β) (commits : List Settings.Command) : Driver β × Outcome :=
  match d.engine.startAmid commits with
  | (engine, .done) =>
    ({ d with
        engine := engine
        delivery := d.delivery.openStream engine.attempts engine.config.queueCapacity }, .done)
  | (engine, outcome) => ({ d with engine := engine }, outcome)

theorem startAmid_nil (d : Driver β) : d.startAmid [] = d.start := by
  rw [startAmid, Engine.startAmid_nil]
  rfl

variable [Board.Obliging β] {d : Driver β} {commits : List Settings.Command}

theorem startAmid_of_done (h : (d.startAmid commits).2 = .done) :
    d.engine.phase = .stopped ∧ d.engine.custody = .parked ∧
      ∃ board log, courseOf log = d.engine.course ∧
        callsOf log = d.engine.calls ++ d.engine.armCalls ∧
        (d.startAmid commits).1 = { d with
          engine := Engine.started
            { d.engine with store := d.engine.store.freeze.writeAll commits } board log
          delivery := d.delivery.openStream (d.engine.attempts + 1)
            d.engine.config.queueCapacity } := by
  have hengine : (d.engine.startAmid commits).2 = .done := by
    unfold startAmid at h
    split at h
    · next heq => rw [heq]
    · next heq => rw [heq]; exact h
  obtain ⟨hphase, hparked, board, log, hcourse, hcalls, heq⟩ := Engine.startAmid_of_done hengine
  refine ⟨hphase, hparked, board, log, hcourse, hcalls, ?_⟩
  have hpair : d.engine.startAmid commits = (_, .done) := Prod.ext heq hengine
  rw [startAmid, hpair]
  rfl

theorem startAmid_store (h : (d.startAmid commits).2 = .done) :
    (d.startAmid commits).1.engine.store = d.engine.store.freeze.writeAll commits := by
  obtain ⟨-, -, board, log, -, -, heq⟩ := startAmid_of_done h
  obtain ⟨-, hfrozen⟩ :=
    Settings.Store.writeAll_frozen (s := d.engine.store.freeze) rfl commits
  rw [heq]
  exact Settings.Store.freeze_of_frozen hfrozen

/-- Such a start leaves a driver sound. -/
theorem startAmid_sound (hd : d.Sound) (h : (d.startAmid commits).2 = .done) :
    (d.startAmid commits).1.Sound := by
  obtain ⟨hphase, hparked, board, log, hcourse, -, heq⟩ := startAmid_of_done h
  rw [heq]
  exact preserved_of_changes (r := Move false) (P := Sound) (fun _ _ h hd => h.sound hd)
    ((writeAll_moves commits d).tail (.started hphase hparked hcourse)) hd

/-! ### What the stream asks for -/

/-- What the stream of such a start was started on: the bridge that was selected before the
commits, and for the rest the snapshot after them. -/
def mixedSnapshot (d : Driver β) (commits : List Settings.Command) : Settings.Snapshot :=
  { (d.startAmid commits).1.engine.store.snapshot with bridge := d.engine.store.snapshot.bridge }

theorem startAmid_asked (h : (d.startAmid commits).2 = .done) :
    Asked d.nextStream d.engine.calls (d.mixedSnapshot commits) []
      (d.startAmid commits).1.engine := by
  obtain ⟨-, -, board, log, -, hcalls, heq⟩ := startAmid_of_done h
  rw [mixedSnapshot, heq]
  exact .live rfl rfl rfl (fun _ => rfl) (.inl rfl) hcalls

/-- The commits in the middle of the start are covered by the routing of the board if they leave
the bridge selected that was selected before. -/
theorem startAmid_readings (hd : d.Sound) (hdone : (d.startAmid commits).2 = .done)
    (hbridge : (d.startAmid commits).1.engine.store.snapshot.bridge =
      d.engine.store.snapshot.bridge)
    {commands : List (Command β)} (hsparse : (d.startAmid commits).1.SelectsSparsely commands) :
    readings ((d.startAmid commits).1.after commands).engine.calls =
      readings d.engine.calls ++
        ((d.startAmid commits).1.gather snapshotAt? commands).map
          fun p => ⟨true, some p.2.bridge⟩ := by
  obtain ⟨-, -, board, log, -, hcalls, heq⟩ := startAmid_of_done hdone
  have hsound := startAmid_sound hd hdone
  rw [heq] at hbridge hsparse hsound ⊢
  have harms : callsOf log = d.engine.calls ++
      Engine.armCalls { d.engine with store := d.engine.store.freeze.writeAll commits } := by
    rw [hcalls, Engine.armCalls, Engine.armCalls, ← hbridge]
    rfl
  obtain ⟨hrouted, hreadings⟩ := Engine.started_routed
    (e := { d.engine with store := d.engine.store.freeze.writeAll commits }) harms
  rw [readings_after commands hsound hrouted hsparse.hasRoom hsparse]
  exact congrArg (· ++ _) hreadings

/-- A tick that begins right after such a start sees the snapshot after the commits. -/
theorem startAmid_snapshotAt? (hdone : (d.startAmid commits).2 = .done) (lag : Duration) :
    (d.startAmid commits).1.snapshotAt? (.tick lag) =
      some (d.nextStream, (d.startAmid commits).1.engine.store.snapshot) := by
  obtain ⟨-, -, board, log, -, -, heq⟩ := startAmid_of_done hdone
  rw [heq]
  rfl

/-- **A start amid commits.** Its stream asks for what one on the mixed snapshot would, so as long
as no tick sees another epoch every read takes place on the bridge that was selected before the
commits. Each read takes place on the bridge of its snapshot, whatever happens, exactly if the
commits leave that bridge selected. -/
theorem startAmid_routed {plan : DriverPlan β} {new : Driver β} (hbuild : plan.build = .ok new)
    (first : List (Command β))
    (hdone : ((new.after first).startAmid commits).2 = .done) :
    let d := new.after first
    let raced := (d.startAmid commits).1
    raced.engine.store = d.engine.store.freeze.writeAll commits ∧
    (∀ commands, raced.StartsNoOther commands →
      let seen := ofStream d.nextStream (raced.gather snapshotAt? commands)
      (raced.after commands).engine.calls =
          d.engine.calls ++ streamCalls (d.mixedSnapshot commits) seen ++
            (if (raced.after commands).engine.custody = .parked then [.measure false] else []) ∧
        ((∀ s ∈ seen, s.bridgeEpoch = raced.engine.store.snapshot.bridgeEpoch) →
          readings (raced.after commands).engine.calls = readings d.engine.calls ++
            List.replicate seen.length ⟨true, some d.engine.store.snapshot.bridge⟩)) ∧
    ((∀ commands, raced.SelectsSparsely commands →
        readings (raced.after commands).engine.calls = readings d.engine.calls ++
          (raced.gather snapshotAt? commands).map fun p => ⟨true, some p.2.bridge⟩) ↔
      raced.engine.store.snapshot.bridge = d.engine.store.snapshot.bridge) := by
  intro d raced
  have hd : d.Sound := (sound_of_build hbuild).after first
  have hraced : raced.Sound := startAmid_sound hd hdone
  have hasked : ∀ commands, raced.StartsNoOther commands →
      Asked d.nextStream d.engine.calls (d.mixedSnapshot commits)
        (ofStream d.nextStream (raced.gather snapshotAt? commands))
        (raced.after commands).engine :=
    fun commands hother => asked_after commands hraced (startAmid_asked hdone) hother
  refine ⟨startAmid_store hdone, fun commands hother => ⟨(hasked commands hother).calls_eq,
    (hasked commands hother).readings_of_unseen⟩, fun hreadings => ?_,
    fun hbridge _ => startAmid_readings hd hdone hbridge⟩
  -- The first tick sees the epoch that the sampler has taken over.
  have hgather : raced.gather snapshotAt? [.tick 0] =
      [(d.nextStream, raced.engine.store.snapshot)] := by
    rw [gather, startAmid_snapshotAt? hdone]
    rfl
  have htold := hreadings [.tick 0] (.of_length (by simp))
  have htrue := (hasked [.tick 0] (.of_not_mem (by simp))).readings_of_unseen (by
    rw [hgather, ofStream_singleton, if_pos rfl]
    simp [mixedSnapshot, raced])
  rw [hgather, ofStream_singleton, if_pos rfl] at htrue
  rw [hgather, htrue] at htold
  have hone := List.append_cancel_left htold
  simp only [List.length_singleton, List.replicate_one, List.map_cons, List.map_nil,
    List.cons.injEq, Standing.mk.injEq, Option.some.injEq, true_and, and_true] at hone
  exact hone.symm

/-- A bridge that is selected between the two reads of a start is not routed: the ticks use a
snapshot with the new bridge, and the board is read on the old one. -/
theorem selection_missed_amid_start :
    scripted.build = .ok scriptedDriver ∧ (scriptedDriver.startAmid [.setBridge 1]).2 = .done ∧
      (scriptedDriver.startAmid [.setBridge 1]).1.engine.store.snapshot.bridge = .on ∧
      readings ((scriptedDriver.startAmid [.setBridge 1]).1.after
          [.tick 0, .tick 0]).engine.calls =
        [⟨true, some .off⟩, ⟨true, some .off⟩] := by
  refine ⟨scripted_build, by decide, by decide, ?_⟩
  have hdone : ((scriptedDriver.after []).startAmid [.setBridge 1]).2 = .done := by decide
  obtain ⟨-, hreadings⟩ :=
    (startAmid_routed scripted_build [] hdone).2.1 [.tick 0, .tick 0] (.of_not_mem (by simp))
  exact hreadings (by decide)

end Driver

end QuadDaq

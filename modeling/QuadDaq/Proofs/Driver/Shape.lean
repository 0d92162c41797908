import QuadDaq.Proofs.Driver.Engines
import QuadDaq.Proofs.Driver.Streams
import QuadDaq.Proofs.Settings.Shaping
import QuadDaq.Proofs.Stream.Blocks

/-!
# The shape of a stream

**A stream has the shape that is in the store when it is started.** Its batches, its polls and
its pace are those of that shape, and as long as it runs the store and every answer agree with
them (`KeepsShape`), because the shape is frozen then.

The shape is frozen exactly if the driver is not stopped (`frozen_iff`). In between it is what
was written last (`shape_after`). What the settings cannot write stays as it was built.
-/

namespace QuadDaq

/-! ### Freezing and releasing -/

namespace Engine

variable {β : Type}

/-- The shape is frozen exactly if the engine is not stopped. -/
def Freezes (e : Engine β) : Prop := e.store.frozen = true ↔ e.phase ≠ .stopped

section Board

variable [Board β]

/-- A start leaves the shape as it is. It freezes it if it does not end stopped. -/
theorem start_shape {e : Engine β} (h : e.Freezes) :
    e.start.1.store.shape = e.store.shape ∧ e.start.1.Freezes ∧
      ∀ error, e.phase = .stopped → e.start.2 = .refused error → e.start.1.phase = .stopped := by
  obtain ⟨board, log, result, harm', -⟩ := arm_eq e.attempted.retimed
  have hends := e.start_ends
  generalize e.start = ending at hends ⊢
  cases hends with
  | denied hne => exact ⟨rfl, h, fun _ hstopped => absurd hstopped hne⟩
  | unwaitable _ => exact ⟨rfl, by simp [Freezes, attempted, Settings.Store.freeze], by simp⟩
  | obstructed _ _ =>
      exact ⟨rfl, by simp [Freezes, abandonStart, Settings.Store.release], fun _ _ _ => rfl⟩
  | unarmed _ _ harm =>
      cases harm.symm.trans harm'
      exact ⟨rfl, by simp [Freezes, abandonStart, Settings.Store.release], fun _ _ _ => rfl⟩
  | brokenOff _ _ harm =>
      cases harm.symm.trans harm'
      exact ⟨rfl, by simp [Freezes, attempted, retimed, Settings.Store.freeze], by simp⟩
  | launched _ _ harm =>
      cases harm.symm.trans harm'
      exact ⟨rfl, by simp [Freezes, launch, attempted, retimed, Settings.Store.freeze], by simp⟩

/-- A stop leaves the shape as it is, and releases it if it is not refused. -/
theorem stop_shape {e : Engine β} (h : e.Freezes) :
    e.stop.1.store.shape = e.store.shape ∧ e.stop.1.Freezes ∧
      (e.stop.2 = .done → e.stop.1.phase = .stopped) := by
  simp only [stop]
  split
  · -- However the run ends, the shape is released after it.
    split
    · exact ⟨rfl, by simp [Freezes, Settings.Store.release], fun _ => rfl⟩
    · split <;> exact ⟨rfl, by simp [Freezes, Settings.Store.release], fun _ => rfl⟩
  · exact ⟨rfl, h, by simp⟩

end Board

/-! ### The stream that runs -/

/-- Stream `k` has this shape, and as long as it runs the store has it as well. -/
structure InShape (k : Nat) (shape : Settings.Shape) (plan : StreamPlan) (e : Engine β) : Prop where
  begun : k ≤ e.attempts
  frozen : e.phase = .running → e.store.frozen = true
  store : ∀ run, e.run = some run → run.stream = k → e.phase = .running → e.store.shape = shape
  run : ∀ run, e.run = some run → run.stream = k →
    run.period = Pace.period shape.sampleRate ∧ run.sampler.plan = plan

section InShape

variable {k : Nat} {shape : Settings.Shape} {plan : StreamPlan} {e e' : Engine β}

/-- A run that goes on keeps the shape, if store and phase stay as they are. -/
theorem InShape.goesOn (h : e.InShape k shape plan) {run run' : Run} (hrun : e.run = some run)
    (hrun' : e'.run = some run') (hstream : run'.stream = run.stream)
    (hperiod : run'.period = run.period) (hplan : run'.sampler.plan = run.sampler.plan)
    (hstore : e'.store = e.store) (hphase : e'.phase = e.phase) (hattempts : e'.attempts = e.attempts) :
    e'.InShape k shape plan := by
  refine ⟨hattempts ▸ h.begun, by rw [hphase, hstore]; exact h.frozen, ?_, ?_⟩
  · intro run₁ hrun₁ hk
    obtain rfl := Option.some.inj (hrun'.symm.trans hrun₁)
    rw [hphase, hstore]
    exact h.store run hrun (hstream ▸ hk)
  · intro run₁ hrun₁ hk
    obtain rfl := Option.some.inj (hrun'.symm.trans hrun₁)
    rw [hperiod, hplan]
    exact h.run run hrun (hstream ▸ hk)

theorem Change.inShape (hchange : Change e e') (h : e.InShape k shape plan) :
    e'.InShape k shape plan := by
  cases hchange with
  | quiet _ => exact ⟨h.begun, h.frozen, h.store, h.run⟩
  | wrote hwrote =>
      -- The shape of a stream that runs is frozen, so the command has not written it.
      refine ⟨h.begun, fun hphase => ?_, fun run hrun hk hphase => ?_, h.run⟩
      · exact (Settings.Command.run_frozen hwrote).trans (h.frozen hphase)
      · exact (Settings.Command.run_shape_of_frozen hwrote (h.frozen hphase)).trans
          (h.store run hrun hk hphase)
  | attempted _ hne _ _ =>
      exact ⟨Nat.le_succ_of_le h.begun, fun hphase => absurd hphase hne,
        fun _ _ _ hphase => absurd hphase hne, h.run⟩
  | started _ _ _ =>
      -- The new stream has a new number.
      have hnew : ∀ run, some e.newRun = some run → run.stream ≠ k := by
        rintro run heq rfl
        have := h.begun
        rw [← Option.some.inj heq] at this
        exact absurd this (Nat.not_succ_le_self e.attempts)
      exact ⟨Nat.le_succ_of_le h.begun, fun _ => rfl,
        fun run hrun hk => absurd hk (hnew run hrun), fun run hrun hk => absurd hk (hnew run hrun)⟩
  | opened _ hrun _ _ _ _ _ _ =>
      refine h.goesOn hrun rfl rfl rfl ?_ rfl rfl rfl
      simp only [Sampler.observe]
      split <;> rfl
  | completed hrun _ _ _ _ =>
      refine h.goesOn hrun rfl rfl rfl ?_ rfl rfl rfl
      rw [Run.completed, Sampler.advance_eq]
  | crashed hrun _ _ => exact h.goesOn hrun rfl rfl rfl rfl rfl rfl rfl
  | detached _ _ _ => exact ⟨h.begun, by simp, by simp, h.run⟩
  | ended _ _ hne _ _ =>
      exact ⟨h.begun, fun hphase => absurd hphase hne, by simp, by simp⟩

end InShape

/-! ### Answers -/

/-- Every document is answered, and what it says of the shape is this one. -/
structure Reports (shape : Settings.Shape) (e : Engine β) : Prop where
  answers : ∀ entries, ∃ answer, e.get (.obj entries) = .ok answer ∧
    answer.map Prod.fst = (Settings.Document.ofEntries entries).map Prod.fst
  rate : ∀ document answer value, e.get document = .ok answer → ("SampleRate", value) ∈ answer →
    value = .int shape.sampleRate
  rows : ∀ document answer value, e.get document = .ok answer → ("BurstSize", value) ∈ answer →
    value = .int shape.batchRows
  settling : ∀ document answer value, e.get document = .ok answer →
    ("SettlingTicks", value) ∈ answer → value = .int shape.settlingTicks
  capacity : ∀ document answer value, e.get document = .ok answer →
    ("QueueCapacity", value) ∈ answer → value = .int shape.queueCapacity

theorem mem_of_get {e : Engine β} {document : Json} {answer : Settings.Document} {name : String}
    {value : Json} (h : e.get document = .ok answer) (hmem : (name, value) ∈ answer) :
    value = Settings.answerFor e.store.snapshot e.store.shape name := by
  unfold get Settings.Store.get at h
  cases hdocument : Settings.Document.ofJson document with
  | error refusal =>
      rw [hdocument] at h
      cases h
  | ok d =>
      rw [hdocument] at h
      cases h
      obtain ⟨entry, -, heq⟩ := List.mem_map.mp hmem
      cases heq
      rfl

theorem reports (e : Engine β) : e.Reports e.store.shape where
  answers entries := ⟨_, rfl, by simp [Settings.Document.answer]⟩
  rate _ _ _ h hmem := mem_of_get h hmem
  rows _ _ _ h hmem := mem_of_get h hmem
  settling _ _ _ h hmem := mem_of_get h hmem
  capacity _ _ _ h hmem := mem_of_get h hmem

end Engine

namespace Driver

variable {β : Type} [Board β]

/-! ### Shapes along a run -/

/-- The tick rate that a command writes, unless it is refused. -/
def rateAt? (d : Driver β) : Command β → Option Nat
  | .configure command => if (d.configure command).2 = .done then command.rate? else none
  | _ => none

/-- The rows per batch that a command writes, unless it is refused. -/
def rowsAt? (d : Driver β) : Command β → Option Nat
  | .configure command => if (d.configure command).2 = .done then command.rows? else none
  | _ => none

/-- Every command leaves in the shape what it writes, and keeps to when the shape is frozen. -/
theorem step_shape {d : Driver β} (h : d.engine.Freezes) (command : Command β) :
    (d.step command).1.engine.Freezes ∧ (d.step command).1.engine.store.shape =
      d.engine.store.shape.written (d.rateAt? command) (d.rowsAt? command) := by
  cases command with
  | start =>
      obtain ⟨hshape, hfreezes, -⟩ := Engine.start_shape h
      simp only [step, d.start_engine.1]
      exact ⟨hfreezes, hshape⟩
  | stop =>
      obtain ⟨hshape, hfreezes, -⟩ := Engine.stop_shape h
      simp only [step, d.stop_engine.1]
      exact ⟨hfreezes, hshape⟩
  | tick lag =>
      obtain ⟨hstore, hphase, -⟩ := d.tick_keeps lag
      simp only [step, Engine.Freezes, hstore, hphase]
      exact ⟨h, rfl⟩
  | releaseRead =>
      obtain ⟨hstore, hphase, -⟩ := d.releaseRead_keeps
      simp only [step, Engine.Freezes, hstore, hphase]
      exact ⟨h, rfl⟩
  | register kind consumer =>
      simp only [step, register]
      split <;> exact ⟨h, rfl⟩
  | configure command =>
      simp only [step, rateAt?, rowsAt?]
      cases hrun : command.run d.engine.store with
      | error refusal =>
          rw [configure_of_error hrun, if_neg (by simp), if_neg (by simp)]
          exact ⟨h, rfl⟩
      | ok store =>
          have hfrozen := Settings.Command.run_frozen hrun
          rw [configure_of_ok hrun, if_pos rfl, if_pos rfl]
          refine ⟨?_, Settings.Command.run_shape hrun⟩
          simp only [Engine.Freezes, hfrozen]
          exact h
  | hold kind => exact ⟨h, rfl⟩
  | unhold kind => exact ⟨h, rfl⟩
  | release kind => exact ⟨h, rfl⟩
  | finish stream kind => exact ⟨h, rfl⟩
  | holdRead => exact ⟨h, rfl⟩
  | disturb change => exact ⟨h, rfl⟩

/-- Along a run the shape is what was written last. -/
theorem shape_after (commands : List (Command β)) :
    ∀ {d : Driver β}, d.engine.Freezes →
      (d.after commands).engine.Freezes ∧ (d.after commands).engine.store.shape =
        d.engine.store.shape.written (d.gather rateAt? commands).getLast?
          (d.gather rowsAt? commands).getLast? := by
  induction commands with
  | nil => exact fun h => ⟨h, rfl⟩
  | cons command rest ih =>
      intro d h
      obtain ⟨hfreezes, hshape⟩ := step_shape h command
      obtain ⟨hfreezes', hshape'⟩ := ih hfreezes
      refine ⟨hfreezes', ?_⟩
      rw [after_cons, hshape', hshape, Settings.Shape.written_written, gather, gather,
        List.getLast?_append, List.getLast?_append]
      have htoList : ∀ o : Option Nat, o.toList.getLast? = o := by
        intro o
        cases o <;> rfl
      rw [htoList, htoList]

omit [Board β] in
theorem freezes_of_build {plan : DriverPlan β} {new : Driver β} (hbuild : plan.build = .ok new) :
    new.engine.Freezes := by
  obtain ⟨board, store, -, hstore, rfl⟩ := build_inv hbuild
  simp [Engine.Freezes, DriverPlan.engine, (store_of_plan hstore).2]

theorem Reachable.freezes {d : Driver β} (h : d.Reachable) : d.engine.Freezes := by
  obtain ⟨plan, new, commands, hbuild, rfl⟩ := h
  exact (shape_after commands (freezes_of_build hbuild)).1

/-- What the stream that a start began has of the shape of that moment. -/
structure KeepsShape (d d' : Driver β) : Prop where
  batches : ∀ b ∈ d'.engine.batchesOf d.nextStream, b.size = d.engine.store.shape.batchRows
  polls : ∀ t r, (d'.engine.ticksOf d.nextStream)[t]? = some r →
    r.polled.isSome = (d.engine.button.isSome &&
      t % Pace.ticksForMillis d.engine.buttonConfig.pollMillis d.engine.store.shape.sampleRate == 0)
  paced : ∀ run, d'.engine.run = some run → run.stream = d.nextStream →
    run.period = Pace.period d.engine.store.shape.sampleRate ∧
      run.sampler.plan.settlingTicks = d.engine.config.settlingTicks
  reported : ∀ run, d'.engine.run = some run → run.stream = d.nextStream →
    d'.engine.phase = .running →
    d'.engine.store.shape = d.engine.store.shape ∧
      d'.engine.acquisition = d.engine.acquisition ∧ d'.engine.Reports d.engine.store.shape

theorem keepsShape {d : Driver β} (hd : d.Sound) (hstart : d.start.2 = .done)
    (commands : List (Command β)) : d.KeepsShape (d.start.1.after commands) := by
  obtain ⟨-, -, board, log, -, heq⟩ := start_eq_of_done hstart
  obtain ⟨s, hyields, -⟩ := (follows_after hd hstart commands).replay
  have hinShape : (d.start.1.after commands).engine.InShape d.nextStream d.engine.store.shape
      (Sampler.start d.engine.plan d.engine.store.snapshot.bridgeEpoch).plan := by
    refine preserved_of_changes (P := Engine.InShape _ _ _) (fun _ _ => Engine.Change.inShape)
      (changes_after (start_sound hd) commands) ?_
    rw [heq]
    refine ⟨Nat.le_refl _, fun _ => rfl, fun _ _ _ _ => rfl, ?_⟩
    intro run hrun _
    rw [← Option.some.inj hrun]
    exact ⟨rfl, rfl⟩
  have hconfig : (d.start.1.after commands).engine.config = d.engine.config :=
    config_after hd (.start :: commands)
  constructor
  · intro b hb
    obtain ⟨blocks, rest, hcollects, -, hbatches⟩ := hyields.collects
    rw [hbatches] at hb
    obtain ⟨block, hblock, rfl⟩ := List.mem_map.mp hb
    have hrows := hd.engine.batchRows
    have hlength := hcollects.full block hblock
    rw [Batch.size, Batch.ofBlock, List.size_toArray, List.length_map, hlength]
    exact Nat.max_eq_left hrows
  · intro t r hr
    rw [hyields.polled_eq hr]
    -- The interval is one tick at least already.
    have hinterval : max d.engine.plan.pollTicks 1 = d.engine.plan.pollTicks :=
      Nat.max_eq_left (Nat.le_max_right _ _)
    rw [hinterval]
    rfl
  · intro run hrun hk
    obtain ⟨hperiod, hplan⟩ := hinShape.run run hrun hk
    exact ⟨hperiod, by rw [hplan]; rfl⟩
  · intro run hrun hk hphase
    have hshape := hinShape.store run hrun hk hphase
    refine ⟨hshape, ?_, hshape ▸ Engine.reports _⟩
    simp only [Engine.acquisition, hconfig, hshape]

end Driver

end QuadDaq

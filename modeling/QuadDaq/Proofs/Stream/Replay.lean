import QuadDaq.Proofs.Stream.Change

/-!
# Replaying a stream

**The ticks of a stream, seen from its sampler alone.** `Yields` runs a sampler over
the records of the completed ticks and collects the batches that they complete; it
knows neither board nor store nor any other stream. `Follows` says that an engine does
the same with one of its streams, whatever else happens to the engine meanwhile, also
after the stream has ended.

With this a property of one stream is a property of `Yields`, proved by induction on
the ticks.
-/

namespace QuadDaq

open Relation (ReflTransGen)

/-- The sampler in the middle of a tick, when it has taken notice of the snapshot. -/
def Sampler.seeing (s : Sampler) (snapshot : Settings.Snapshot) : Sampler :=
  s.observe snapshot.bridgeEpoch

/-- A record tells what becomes of a tick of this sampler. -/
structure Sampler.Fits (button : Bool) (s : Sampler) (r : TickRecord) : Prop where
  guarded : r.guarded = (s.seeing r.snapshot).isGuarded
  result : (s.seeing r.snapshot).result? r.snapshot r.outcome = some r.result
  polled : r.polled.isSome = (button && s.pollsButton)

/-- From `s₀`, the recorded ticks bring the batches and end with the sampler. -/
inductive Sampler.Yields (button : Bool) (s₀ : Sampler) :
    List TickRecord → List Batch → Sampler → Prop
  | nil : Yields button s₀ [] [] s₀
  | snoc {records : List TickRecord} {batches : List Batch} {s : Sampler} {r : TickRecord} :
      Yields button s₀ records batches s →
      s.Fits button r →
      Yields button s₀ (records ++ [r])
        (batches ++ ((s.seeing r.snapshot).advance r.result).2.toList)
        ((s.seeing r.snapshot).advance r.result).1

/-- A run is where the replay of its completed ticks leaves the sampler, or in the
middle of the next tick. A run that has crashed completes no further tick. -/
structure Run.Continues (button : Bool) (s : Sampler) (run : Run) : Prop where
  between : run.openTick = none → run.crashed = false → run.sampler = s
  within : ∀ tick, run.openTick = some tick →
    run.sampler = s.seeing tick.snapshot ∧ tick.polled.isSome = (button && s.pollsButton)

namespace Engine

variable {β : Type}

/-- The ticks and batches of a stream are those of its sampler, started as `s₀`. -/
structure Follows (k : Nat) (fitted : Bool) (s₀ : Sampler) (e : Engine β) : Prop where
  button : e.button.isSome = fitted
  started : k ≤ e.attempts
  replay : ∃ s, s₀.Yields fitted (e.ticksOf k) (e.batchesOf k) s ∧
    ∀ run, e.run = some run → run.stream = k → run.Continues fitted s

/-- The ticks and batches after a completed tick. -/
theorem completed_views {e e' : Engine β} {k : Nat} {s : Sampler} {r : TickRecord}
    {result : TickResult}
    (h : e'.course = e.course ++ .ticked k r :: (s.signalsOf result).map (.published k)) :
    e'.ticked = e.ticked ++ [(k, r)] ∧
      e'.batches = e.batches ++ (s.advance result).2.toList.map (Prod.mk k) ∧
      e'.abandoned = e.abandoned := by
  rw [ticked_of_course h, batches_of_course h, abandoned_of_course h, List.filterMap_cons,
    List.filterMap_cons, List.filterMap_cons]
  simp only [EngineEvent.ticked?, EngineEvent.published?, EngineEvent.abandoned?]
  rw [List.filterMap_map, List.filterMap_map, List.filterMap_map, EngineEvent.ticked?_comp,
    EngineEvent.published?_comp, EngineEvent.abandoned?_comp, List.filterMap_eq_map, batches_map_mk,
    filterMap_batch?_signalsOf]
  exact ⟨by simp, rfl, by simp⟩

/-- Changes that add neither ticks nor batches and go on with the runs. -/
theorem Follows.of_views {k : Nat} {fitted : Bool} {s₀ : Sampler} {e e' : Engine β}
    (hf : e.Follows k fitted s₀) {added : List EngineEvent} (hcourse : e'.course = e.course ++ added)
    (hticked : added.filterMap EngineEvent.ticked? = [])
    (hbatches : (added.filterMap EngineEvent.published?).filterMap
      (fun p => p.2.batch?.map (Prod.mk p.1)) = [])
    (hbutton : e'.button.isSome = e.button.isSome) (hattempts : e.attempts ≤ e'.attempts)
    (hrun : ∀ s run', e'.run = some run' → run'.stream = k →
      (∀ run, e.run = some run → run.stream = k → run.Continues fitted s) →
      run'.Continues fitted s) :
    e'.Follows k fitted s₀ := by
  obtain ⟨s, hyields, hcontinues⟩ := hf.replay
  refine ⟨hbutton.trans hf.button, Nat.le_trans hf.started hattempts, s, ?_, ?_⟩
  · rw [ticksOf, batchesOf, ticked_of_course hcourse, batches_of_course hcourse, hticked, hbatches,
      List.append_nil, List.append_nil]
    exact hyields
  · intro run' hrun' hk
    exact hrun s run' hrun' hk hcontinues

/-- A completed tick of the stream is one more tick of its sampler. -/
theorem Follows.complete {k : Nat} {fitted : Bool} {s₀ : Sampler} {e e' : Engine β}
    (hf : e.Follows k fitted s₀) {run : Run} {tick : OpenTick} {outcome : ReadOutcome}
    {result : TickResult} {deadline : Nat} (hrun : e.run = some run)
    (hopen : run.openTick = some tick)
    (hresult : run.sampler.result? tick.snapshot outcome = some result)
    (hcourse : e'.course = e.course ++
      .ticked run.stream (run.sampler.recordOf tick outcome result) ::
        (run.sampler.signalsOf result).map (.published run.stream))
    (hrun' : e'.run = some (run.completed result deadline))
    (hbutton : e'.button = e.button) (hattempts : e'.attempts = e.attempts) :
    e'.Follows k fitted s₀ := by
  obtain ⟨s, hyields, hcontinues⟩ := hf.replay
  obtain ⟨hticked, hbatches, -⟩ := completed_views hcourse
  refine ⟨by rw [hbutton, hf.button], by rw [hattempts]; exact hf.started, ?_⟩
  simp only [ticksOf, batchesOf, hticked, hbatches, ofStream_append, ofStream_singleton,
    ofStream_map_mk, hrun', Option.some.injEq]
  by_cases hk : run.stream = k
  · obtain ⟨hsampler, hpolled⟩ := (hcontinues run hrun hk).within tick hopen
    rw [if_pos hk, if_pos hk]
    rw [hsampler] at hresult
    refine ⟨((s.seeing tick.snapshot).advance result).1, ?_, ?_⟩
    · rw [hsampler]
      exact hyields.snoc ⟨rfl, hresult, hpolled⟩
    · rintro run' rfl _
      exact ⟨fun _ _ => by rw [Run.completed, hsampler], by simp [Run.completed]⟩
  · -- A tick of another stream adds nothing to this one.
    rw [if_neg hk, if_neg hk, List.append_nil, List.append_nil]
    refine ⟨s, hyields, ?_⟩
    rintro run' rfl hk'
    exact absurd hk' hk

/-- A stream is followed through every change. -/
theorem Change.follows {k : Nat} {fitted : Bool} {s₀ : Sampler} {e e' : Engine β}
    (h : Change e e') (hf : e.Follows k fitted s₀) : e'.Follows k fitted s₀ := by
  cases h with
  | quiet hlog =>
      exact hf.of_views (hlog.trans (List.append_nil _).symm) rfl rfl rfl (Nat.le_refl _)
        fun s run' hrun' hk hold => hold run' hrun' hk
  | wrote _ =>
      exact hf.of_views (List.append_nil _).symm rfl rfl rfl (Nat.le_refl _)
        fun s run' hrun' hk hold => hold run' hrun' hk
  | attempted _ _ _ hlog =>
      exact hf.of_views (hlog.trans (List.append_nil _).symm) rfl rfl rfl (Nat.le_succ _)
        fun s run' hrun' hk hold => hold run' hrun' hk
  | started _ _ hlog =>
      refine hf.of_views (hlog.trans (List.append_nil _).symm) rfl rfl rfl (Nat.le_succ _) ?_
      intro s run' hrun' hk _
      -- The new stream has a new number, so it is not the one that is followed.
      have hnew : run'.stream = e.attempts + 1 := by rw [← Option.some.inj hrun']; rfl
      have := hf.started
      omega
  | @opened run _ _ polled lag _ signals _ hrun hclosed hcrashed hbutton hpolled hlog hbatch =>
      refine hf.of_views hlog (by simp) ?_ hbutton (Nat.le_refl _) ?_
      · rw [List.filterMap_map, EngineEvent.published?_comp, List.filterMap_eq_map, batches_map_mk,
          List.filterMap_eq_nil_iff.mpr hbatch, List.map_nil]
      · intro s run' hrun' hk hold
        rw [← Option.some.inj hrun'] at hk ⊢
        have hsampler := (hold run hrun hk).between hclosed hcrashed
        constructor
        · simp
        · rintro tick rfl'
          obtain rfl := Option.some.inj rfl'
          rw [hf.button, hsampler] at hpolled
          exact ⟨by rw [hsampler]; rfl, hpolled⟩
  | completed hrun hopen hresult _ hlog =>
      exact hf.complete hrun hopen hresult hlog rfl rfl rfl
  | crashed hrun hopen hlog =>
      refine hf.of_views hlog rfl rfl rfl (Nat.le_refl _) ?_
      -- After a crash the run is neither between two ticks nor within one.
      intro s run' hrun' hk _
      rw [← Option.some.inj hrun']
      exact ⟨by simp, by simp⟩
  | detached _ _ _ =>
      exact hf.of_views (List.append_nil _).symm rfl rfl rfl (Nat.le_refl _)
        fun s run' hrun' hk hold => hold run' hrun' hk
  | ended _ _ _ _ hlog =>
      exact hf.of_views hlog rfl rfl rfl (Nat.le_refl _)
        fun s run' hrun' => absurd hrun' (by simp)

theorem Follows.of_changes {k : Nat} {fitted : Bool} {s₀ : Sampler} {e e' : Engine β}
    (hf : e.Follows k fitted s₀) (h : ReflTransGen Change e e') : e'.Follows k fitted s₀ := by
  induction h with
  | refl => exact hf
  | tail _ hchange ih => exact hchange.follows ih

/-- The course tells nothing yet of a stream that starts now. -/
theorem started_unheard {e : Engine β} (hn : e.Numbered) (board : β) {log : Array EngineEvent}
    (hlog : courseOf log = e.course) :
    ∀ event ∈ (e.started board log).course, event.stream? ≠ some (e.attempts + 1) := by
  intro event hevent hk
  have hle := hn.course event (hlog ▸ hevent) _ hk
  omega

/-- A stream is followed from its start. -/
theorem follows_started {e : Engine β} (hn : e.Numbered) {board : β} {log : Array EngineEvent}
    (hlog : courseOf log = e.course) :
    (e.started board log).Follows (e.attempts + 1) e.button.isSome
      (.start e.plan e.store.snapshot.bridgeEpoch) := by
  obtain ⟨hticks, hbatches, -⟩ := ticksOf_eq_nil (started_unheard hn board hlog)
  refine ⟨rfl, Nat.le_refl _, .start e.plan e.store.snapshot.bridgeEpoch, ?_, ?_⟩
  · rw [hticks, hbatches]
    exact .nil
  · intro run hrun _
    rw [← Option.some.inj hrun]
    exact ⟨fun _ _ => rfl, by simp [newRun]⟩

end Engine

end QuadDaq

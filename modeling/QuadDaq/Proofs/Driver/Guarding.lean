import QuadDaq.Proofs.Driver.Streams

/-!
# Streams are guarded in their windows

**Which ticks of a stream are discarded is a matter of bridge epochs alone.** The windows are
those of the epochs that the ticks are given (`InWindow`); what the reads bring has no
influence on them. Faults are counted and reported inside of a window as well, and the
button is polled (`TickRecord.Obeys`).
-/

namespace QuadDaq

/-- What becomes of tick `t` of a stream that was started with this plan and epoch, when its
ticks are given these epochs. -/
structure TickRecord.Obeys (fitted : Bool) (plan : StreamPlan) (initial : UInt64)
    (epochs : List UInt64) (t : Nat) (r : TickRecord) : Prop where
  /-- The guard is up exactly in the windows. -/
  guarded : r.guarded = true ↔ InWindow plan initial epochs t
  /-- A guarded tick brings no row. -/
  noRow : r.guarded = true → r.result.isRow = false
  /-- An unguarded row is calibrated, and brought or found incomplete. -/
  kept : ∀ raw, r.outcome = .row raw → r.guarded = false →
    (∃ row, r.snapshot.calibrate raw = .ok row ∧ r.result = .row row) ∨
      ∃ m, r.snapshot.calibrate raw = .error m ∧ r.result = .incomplete m
  /-- A fault is a fault, guarded or not. -/
  fault : ∀ f, r.outcome = .fault f → r.result = .fault f
  /-- The button is polled at every multiple of the polling interval. -/
  polled : r.polled.isSome = (fitted && t % max plan.pollTicks 1 == 0)

namespace TickRecord

variable {r : TickRecord}

theorem fault_of_brought (h : r.brought? = some r.result) {f : BoardFault}
    (hf : r.outcome = .fault f) : r.result = .fault f := by
  rw [brought?, hf] at h
  exact (Option.some.inj h).symm

theorem noRow_of_brought (h : r.brought? = some r.result) (hup : r.guarded = true) :
    r.result.isRow = false := by
  rcases brought?_cases h with ⟨f, -, hresult⟩ | ⟨raw, -, -, hresult⟩ |
    ⟨raw, m, -, hdown, -⟩ | ⟨raw, row, -, hdown, -⟩
  · rw [hresult]
    rfl
  · rw [hresult]
    rfl
  · rw [hup] at hdown
    cases hdown
  · rw [hup] at hdown
    cases hdown

theorem kept_of_brought (h : r.brought? = some r.result) {raw : Row} (hraw : r.outcome = .row raw)
    (hdown : r.guarded = false) :
    (∃ row, r.snapshot.calibrate raw = .ok row ∧ r.result = .row row) ∨
      ∃ m, r.snapshot.calibrate raw = .error m ∧ r.result = .incomplete m := by
  simp only [brought?, hraw, hdown, Bool.false_eq_true, if_false] at h
  cases hrow : r.snapshot.calibrate raw with
  | ok row =>
      rw [hrow] at h
      exact .inl ⟨row, rfl, (Option.some.inj h).symm⟩
  | error m =>
      rw [hrow] at h
      exact .inr ⟨m, rfl, (Option.some.inj h).symm⟩

end TickRecord

/-- Every tick of a replay obeys the windows. -/
theorem Sampler.Yields.obeys {fitted : Bool} {plan : StreamPlan} {initial : UInt64}
    {records : List TickRecord} {batches : List Batch} {s : Sampler}
    (h : Yields fitted (.start plan initial) records batches s) {t : Nat} {r : TickRecord}
    (hr : records[t]? = some r) :
    r.Obeys fitted plan initial (records.map TickRecord.epoch) t := by
  obtain ⟨s', -, hfits⟩ := h.fits_at hr
  have hbrought := hfits.brought?
  exact ⟨h.guarded_iff hr, TickRecord.noRow_of_brought hbrought,
    fun _ => TickRecord.kept_of_brought hbrought, fun _ => TickRecord.fault_of_brought hbrought,
    h.polled_eq hr⟩

/-- Epochs of later ticks are no matter of a tick. -/
theorem TickRecord.Obeys.append {fitted : Bool} {plan : StreamPlan} {initial : UInt64}
    {epochs : List UInt64} {t : Nat} {r : TickRecord}
    (h : r.Obeys fitted plan initial epochs t) (ht : t < epochs.length) (later : List UInt64) :
    r.Obeys fitted plan initial (epochs ++ later) t :=
  ⟨h.guarded.trans (inWindow_append ht later).symm, h.noRow, h.kept, h.fault, h.polled⟩

namespace Driver

variable {β : Type}

/-- From one state to a later one these ticks are added, and the counters grow by those of
them that were discarded under the guard and by those whose reads failed. -/
structure CountsTicks (d d' : Driver β) (new : List (Nat × TickRecord)) : Prop where
  ticked : d'.engine.ticked = d.engine.ticked ++ new
  discarded : d'.engine.counters.discarded =
    d.engine.counters.discarded + new.countP fun p => p.2.guarded && p.2.outcome.isRow
  faults : d'.engine.counters.faults =
    d.engine.counters.faults + new.countP fun p => p.2.outcome.isFault

theorem Sound.countsTicks {d d' : Driver β} (hd : d.Sound) (hd' : d'.Sound)
    {new : List (Nat × TickRecord)} (h : d'.engine.ticked = d.engine.ticked ++ new) :
    d.CountsTicks d' new := by
  refine ⟨h, ?_, ?_⟩
  · rw [hd'.engine.tallied.discarded, hd.engine.tallied.discarded, hd'.engine.explained.discarded,
      hd.engine.explained.discarded, h, List.countP_append]
  · rw [hd'.engine.tallied.faults, hd.engine.tallied.faults, hd'.engine.explained.faults,
      hd.engine.explained.faults, h, List.countP_append]

/-- A fault is reported at once. -/
theorem Sound.fault_reported {d : Driver β} (hd : d.Sound) {before after : List EngineEvent}
    {k : Nat} {r : TickRecord} {f : BoardFault}
    (hcourse : d.engine.course = before ++ .ticked k r :: after) (hf : r.outcome = .fault f) :
    ∃ rest, after = .published k (.error .acquisitionFault f.toError.message) :: rest := by
  have hbrought : r.brought? = some r.result := by
    refine hd.engine.explained (k, r) ?_
    rw [Engine.mem_ticked, hcourse]
    exact List.mem_append_right _ List.mem_cons_self
  obtain ⟨rest, hrest⟩ := hd.engine.reported before k r after hcourse
  rw [TickRecord.fault_of_brought hbrought hf] at hrest
  exact ⟨rest, hrest.symm⟩

variable [Board β]

theorem ticked_after {d : Driver β} (hd : d.Sound) (commands : List (Command β)) :
    d.engine.ticked <+: (d.after commands).engine.ticked :=
  Engine.ticked_prefix_of_changes (changes_after hd commands)

/-- Every tick of a stream is what its input makes of it under the windows of the epochs that
the ticks are given, each fault is reported as an acquisition fault at once, and from there
on the counters grow by exactly the discarded and the faulty ticks. -/
theorem guards_windows {d : Driver β} (hd : d.Reachable) (hstart : d.start.2 = .done)
    (commands : List (Command β)) :
    (∀ (t : Nat) (r : TickRecord), ((d.start.1.after commands).engine.ticksOf d.nextStream)[t]? = some r →
      (d.start.1.inputsOf d.nextStream commands)[t]? = some r.input ∧
        r.Obeys d.engine.button.isSome d.engine.plan d.engine.store.snapshot.bridgeEpoch
          ((d.start.1.inputsOf d.nextStream commands).map TickInput.epoch) t) ∧
    (∀ (before : List EngineEvent) (r : TickRecord) (after : List EngineEvent) (f : BoardFault),
      (d.start.1.after commands).engine.course = before ++ .ticked d.nextStream r :: after →
        r.outcome = .fault f →
        ∃ rest, after =
          .published d.nextStream (.error .acquisitionFault f.toError.message) :: rest) ∧
    ∀ more, ∃ new,
      (d.start.1.after commands).CountsTicks ((d.start.1.after commands).after more) new := by
  have hsound := (start_sound hd.sound).after commands
  refine ⟨?_, ?_, ?_⟩
  · intro t r hr
    obtain ⟨s, hyields, -⟩ := (follows_after hd.sound hstart commands).replay
    obtain ⟨hlt, -⟩ := List.getElem?_eq_some_iff.mp hr
    -- The inputs may go on with a tick that crashed, which comes after all completed ones.
    rw [inputsOf_eq hd.sound hstart, List.map_append, List.map_map]
    refine ⟨?_, (hyields.obeys hr).append (by rwa [List.length_map]) _⟩
    rw [List.getElem?_append_left (by rwa [List.length_map]), List.getElem?_map, hr]
    rfl
  · intro before r after f hcourse hf
    exact hsound.fault_reported hcourse hf
  · intro more
    obtain ⟨new, hnew⟩ := ticked_after hsound more
    exact ⟨new, hsound.countsTicks (hsound.after more) hnew.symm⟩

theorem guards_windows_scripted :
    scripted.build = .ok scriptedDriver ∧ scriptedDriver.start.2 = .done ∧
      ((scriptedDriver.start.1.after [.tick 0, .tick 0]).engine.ticksOf 1).map
        (·.guarded) = [true, false] ∧
      ∀ (t : Nat) (r : TickRecord),
        ((scriptedDriver.start.1.after [.tick 0, .tick 0]).engine.ticksOf 1)[t]? = some r →
          r.Obeys false scriptedDriver.engine.plan 0
            ((scriptedDriver.start.1.inputsOf 1 [.tick 0, .tick 0]).map TickInput.epoch) t :=
  ⟨rfl, rfl, by decide, fun t r hr =>
    ((guards_windows (.of_build scripted_build []) rfl [.tick 0, .tick 0]).1 t r hr).2⟩

end Driver

end QuadDaq

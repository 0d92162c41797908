import QuadDaq.Proofs.Driver.Guarding
import QuadDaq.Proofs.Driver.Routing

/-!
# Selections of the bridge and the ticks after them

**A stream settles after every selection that is made while it runs**
(`settles_while_running`): of its next ticks as many as the settling time has bring no row.
A selection that is made while nothing runs has no such effect. The stream that starts next
takes its epoch as seen, and guards its startup discard alone.

Every command advances the epoch of the store by its selections (`step_epoch`), so the ticks
before and after a selection see different epochs.
-/

namespace QuadDaq

/-- The stream has come to its end. -/
def Engine.Past {β : Type} (e : Engine β) (k : Nat) : Prop :=
  k ≤ e.attempts ∧ ∀ run, e.run = some run → run.stream ≠ k

theorem Engine.Change.past {β : Type} {e e' : Engine β} {k : Nat} (h : Engine.Change e e')
    (hp : e.Past k) : e'.Past k := by
  refine ⟨Nat.le_trans hp.1 h.attempts_le, fun run' hrun' => ?_⟩
  rcases h.run_stream hrun' with ⟨run, hrun, hstream⟩ | ⟨rfl, -⟩
  · rw [hstream]
    exact hp.2 run hrun
  · -- A new stream has a new number.
    exact Nat.ne_of_gt (Nat.lt_succ_of_le hp.1)

namespace Driver

variable {β : Type} [Board β]

/-! ### Epochs along a run -/

/-- Every command advances the epoch by the bridges that it selects. -/
theorem step_epoch (d : Driver β) (command : Command β) :
    (d.step command).1.engine.store.snapshot.bridgeEpoch.toNat =
      (d.engine.store.snapshot.bridgeEpoch.toNat + (d.selectionAt? command).toList.length) %
        2 ^ 64 := by
  have hsame : ∀ {d' : Driver β}, d'.engine.store.snapshot = d.engine.store.snapshot →
      d'.engine.store.snapshot.bridgeEpoch.toNat =
        (d.engine.store.snapshot.bridgeEpoch.toNat + 0) % 2 ^ 64 := by
    intro d' heq
    rw [heq, Nat.add_zero, Nat.mod_eq_of_lt (UInt64.toNat_lt _)]
  cases command with
  | start => exact hsame (by rw [step, d.start_engine.1, Engine.start_snapshot])
  | stop => exact hsame (by rw [step, d.stop_engine.1, Engine.stop_snapshot])
  | tick lag => exact hsame (by rw [step, (d.tick_keeps lag).store])
  | configure command =>
      simp only [step, configure, Engine.configure, selectionAt?]
      cases hrun : command.run d.engine.store with
      | ok store =>
          rw [(Settings.Command.run_bridge hrun).2, Settings.toNat_advanceEpoch]
          cases command.selected? d.engine.store <;> rfl
      | error refusal =>
          rw [Settings.Command.selected?_of_error hrun]
          exact hsame rfl
  | releaseRead => exact hsame (by rw [step, d.releaseRead_keeps.store])
  | register kind consumer =>
      refine hsame ?_
      simp only [step, register]
      split <;> rfl
  | hold kind => exact hsame rfl
  | unhold kind => exact hsame rfl
  | release kind => exact hsame rfl
  | finish stream kind => exact hsame rfl
  | holdRead => exact hsame rfl
  | disturb change => exact hsame rfl

/-- The store is so many selections ahead of an epoch. -/
def Ahead (d : Driver β) (epoch : UInt64) (pending : Nat) : Prop :=
  d.engine.store.snapshot.bridgeEpoch.toNat = (epoch.toNat + pending) % 2 ^ 64

omit [Board β] in
theorem ahead_self (d : Driver β) : d.Ahead d.engine.store.snapshot.bridgeEpoch 0 :=
  (Nat.mod_eq_of_lt (UInt64.toNat_lt _)).symm

theorem Ahead.step {d : Driver β} {epoch : UInt64} {pending : Nat} (h : d.Ahead epoch pending)
    (command : Command β) :
    (d.step command).1.Ahead epoch (pending + (d.selectionAt? command).toList.length) := by
  rw [Ahead, step_epoch, h, Nat.mod_add_mod, Nat.add_assoc]

omit [Board β] in
theorem Ahead.ne {d : Driver β} {epoch : UInt64} {pending : Nat} (h : d.Ahead epoch pending)
    (hpos : 0 < pending) (hlt : pending < 2 ^ 64) :
    d.engine.store.snapshot.bridgeEpoch ≠ epoch := by
  rintro heq
  rw [Ahead, heq] at h
  have := epoch.toNat_lt
  omega

/-! ### The next tick of a stream -/

theorem past_after {d : Driver β} (hd : d.Sound) {k : Nat} (hp : d.engine.Past k)
    (commands : List (Command β)) : (d.after commands).engine.Past k :=
  preserved_of_changes (P := fun e => e.Past k) (fun _ _ hchange h => hchange.past h)
    (changes_after hd commands) hp

omit [Board β] in
theorem snapshotAt?_eq_some {d : Driver β} {command : Command β} {p : Nat × Settings.Snapshot}
    (h : d.snapshotAt? command = some p) :
    ∃ lag run, command = .tick lag ∧ d.engine.run = some run ∧
      p = (run.stream, d.engine.store.snapshot) := by
  cases command with
  | tick lag =>
      rw [snapshotAt?] at h
      split at h
      · obtain ⟨run, hrun, heq⟩ := Option.map_eq_some_iff.mp h
        exact ⟨lag, run, rfl, hrun, heq.symm⟩
      · cases h
  | _ => cases h

/-- A stream that has come to its end begins no tick any more. -/
theorem gather_of_past {k : Nat} (commands : List (Command β)) :
    ∀ {d : Driver β}, d.Sound → d.engine.Past k →
      ofStream k (d.gather snapshotAt? commands) = [] := by
  induction commands with
  | nil => exact fun _ _ => rfl
  | cons command rest ih =>
      intro d hd hp
      have hd' : (d.step command).1.Sound := hd.after [command]
      have hp' : (d.step command).1.engine.Past k := past_after hd hp [command]
      rw [gather, ofStream_append, ih hd' hp', List.append_nil]
      cases hsnapshot : d.snapshotAt? command with
      | none => rfl
      | some p =>
          obtain ⟨lag, run, -, hrun, rfl⟩ := snapshotAt?_eq_some hsnapshot
          rw [Option.toList_some, ofStream_singleton, if_neg (hp.2 run hrun)]

omit [Board β] in
/-- A tick of another stream tells that this one has come to its end. -/
theorem past_of_snapshotAt? {d : Driver β} {k : Nat} (hk : k ≤ d.engine.attempts)
    {command : Command β} {p : Nat × Settings.Snapshot} (h : d.snapshotAt? command = some p)
    (hne : p.1 ≠ k) : d.engine.Past k := by
  obtain ⟨lag, run, -, hrun, rfl⟩ := snapshotAt?_eq_some h
  refine ⟨hk, fun run' hrun' => ?_⟩
  rwa [← Option.some.inj (hrun.symm.trans hrun')]

theorem attempts_le_after {d : Driver β} (hd : d.Sound) (commands : List (Command β)) :
    d.engine.attempts ≤ (d.after commands).engine.attempts :=
  attempts_le_of_changes (changes_after hd commands)

/-- If the bridge was selected since an epoch was seen, the next tick of a stream sees
another one. -/
theorem Ahead.next_tick {k : Nat} {epoch : UInt64} (commands : List (Command β)) :
    ∀ {d : Driver β} {pending : Nat}, d.Sound → k ≤ d.engine.attempts → d.Ahead epoch pending →
      0 < pending → d.HasRoom pending commands →
      ∀ {s : Settings.Snapshot} {rest : List Settings.Snapshot},
        ofStream k (d.gather snapshotAt? commands) = s :: rest → s.bridgeEpoch ≠ epoch := by
  induction commands with
  | nil => exact fun _ _ _ _ _ _ _ h => absurd h (by simp [gather])
  | cons command commands ih =>
      intro d pending hd hk hahead hpos hroom s rest hgather
      have hd' : (d.step command).1.Sound := hd.after [command]
      cases hsnapshot : d.snapshotAt? command with
      | none =>
          rw [gather, hsnapshot, Option.toList_none, List.nil_append] at hgather
          exact ih hd' (Nat.le_trans hk (attempts_le_after hd [command])) (hahead.step command)
            (Nat.lt_of_lt_of_le hpos (Nat.le_add_right _ _)) (hroom.of_cons hsnapshot) hgather
      | some p =>
          by_cases hstream : p.1 = k
          · obtain ⟨lag, run, -, -, rfl⟩ := snapshotAt?_eq_some hsnapshot
            rw [gather, hsnapshot, Option.toList_some, ofStream_append, ofStream_singleton,
              if_pos hstream] at hgather
            rw [← (List.cons.inj hgather).1]
            exact hahead.ne hpos (hroom [] (command :: commands) rfl rfl)
          · rw [gather_of_past _ hd (past_of_snapshotAt? hk hsnapshot hstream)] at hgather
            cases hgather

/-- Commands leave the store ahead of the epoch that the stream has seen last, by fewer
selections than would go unnoticed. -/
theorem Ahead.after (k : Nat) (more commands : List (Command β)) :
    ∀ {d : Driver β} {epoch : UInt64} {pending : Nat}, d.Sound → k ≤ d.engine.attempts →
      d.Ahead epoch pending → d.HasRoom pending (commands ++ more) →
      d.SelectsSparsely (commands ++ more) →
      (d.after commands).engine.Past k ∨ ∃ pending',
        (d.after commands).Ahead
          (lastSeen epoch ((ofStream k (d.gather snapshotAt? commands)).map (·.bridgeEpoch)))
          pending' ∧ (d.after commands).HasRoom pending' more := by
  induction commands with
  | nil => exact fun _ _ hahead hroom _ => .inr ⟨_, hahead, hroom⟩
  | cons command commands ih =>
      intro d epoch pending hd hk hahead hroom hsparse
      have hd' : (d.step command).1.Sound := hd.after [command]
      have hk' := Nat.le_trans hk (attempts_le_after hd [command])
      cases hsnapshot : d.snapshotAt? command with
      | none =>
          rw [gather, hsnapshot, Option.toList_none, List.nil_append]
          exact ih hd' hk' (hahead.step command) (hroom.of_cons hsnapshot) hsparse.of_cons
      | some p =>
          by_cases hstream : p.1 = k
          · obtain ⟨lag, run, rfl, -, rfl⟩ := snapshotAt?_eq_some hsnapshot
            -- The tick has taken notice of all selections so far.
            have hahead' := d.ahead_self.step (.tick lag)
            rw [gather, hsnapshot, Option.toList_some, ofStream_append, ofStream_singleton,
              if_pos hstream, List.map_append, List.map_singleton, List.singleton_append,
              lastSeen_cons]
            exact ih hd' hk' hahead' hsparse.of_cons.hasRoom hsparse.of_cons
          · exact .inl (past_after hd (past_of_snapshotAt? hk hsnapshot hstream) _)

/-- Without selections every tick sees the epoch of the store. -/
theorem epochs_of_unselected (commands : List (Command β)) :
    ∀ {d : Driver β}, d.gather selectionAt? commands = [] →
      ∀ p ∈ d.gather snapshotAt? commands,
        p.2.bridgeEpoch = d.engine.store.snapshot.bridgeEpoch := by
  induction commands with
  | nil => exact fun _ p hp => absurd hp (by simp [gather])
  | cons command commands ih =>
      intro d hnone p hp
      rw [gather] at hnone hp
      obtain ⟨hselected, hrest⟩ := List.append_eq_nil_iff.mp hnone
      have hsame : (d.step command).1.engine.store.snapshot.bridgeEpoch =
          d.engine.store.snapshot.bridgeEpoch := by
        apply UInt64.toNat.inj
        rw [step_epoch, hselected]
        exact Nat.mod_eq_of_lt (UInt64.toNat_lt _)
      rcases List.mem_append.mp hp with hhead | htail
      · obtain ⟨lag, run, -, -, rfl⟩ := snapshotAt?_eq_some (Option.mem_toList.mp hhead)
        rfl
      · rw [ih hrest p htail, hsame]

/-! ### Windows -/

/-- The guard of a tick, by the epochs of the snapshots on which the ticks of its stream
began. -/
theorem guarded_iff {d : Driver β} (hd : d.Sound) (hstart : d.start.2 = .done)
    {commands : List (Command β)} {t : Nat} {r : TickRecord}
    (hr : ((d.start.1.after commands).engine.ticksOf d.nextStream)[t]? = some r) :
    t < (ofStream d.nextStream (d.start.1.gather snapshotAt? commands)).length ∧
      (r.guarded = true → r.result.isRow = false) ∧
      (r.guarded = true ↔ InWindow d.engine.plan d.engine.store.snapshot.bridgeEpoch
        ((ofStream d.nextStream (d.start.1.gather snapshotAt? commands)).map (·.bridgeEpoch)) t) := by
  obtain ⟨s, hyields, -⟩ := (follows_after hd hstart commands).replay
  have hobeys := hyields.obeys hr
  obtain ⟨hlt, -⟩ := List.getElem?_eq_some_iff.mp hr
  have hfresh : d.start.1.engine.snapshotsOf d.nextStream = [] := by
    obtain ⟨-, -, board, log, hlog, heq⟩ := start_eq_of_done hstart
    rw [heq]
    exact (Engine.started_history hd.engineNumbered hlog).1
  have hseen := (inputs_after d.nextStream commands (start_sound hd)).1
  rw [hfresh, List.nil_append, Engine.snapshotsOf, List.append_assoc] at hseen
  -- Behind the completed ticks there may be one that crashed or is open.
  rw [← hseen, List.length_append, List.length_map, List.map_append, List.map_map]
  refine ⟨Nat.lt_of_lt_of_le hlt (Nat.le_add_right _ _), hobeys.noRow, hobeys.guarded.trans ?_⟩
  exact (inWindow_append (by rwa [List.length_map]) _).symm

/-- A selection makes the next tick of the stream see a new epoch. -/
theorem seesChange_of_selected {d : Driver β} (hd : d.Sound) (hstart : d.start.2 = .done)
    {first rest : List (Command β)} {command : Settings.Command}
    (hsparse : d.start.1.SelectsSparsely (first ++ .configure command :: rest))
    (hselected : (command.selected? (d.start.1.after first).engine.store).isSome)
    {before seen : List Settings.Snapshot}
    (hbefore : before = ofStream d.nextStream (d.start.1.gather snapshotAt? first))
    (hseen : seen = ofStream d.nextStream
      (d.start.1.gather snapshotAt? (first ++ .configure command :: rest)))
    (hlt : before.length < seen.length) :
    seesChange d.engine.store.snapshot.bridgeEpoch (seen.map (·.bridgeEpoch)) before.length =
      true := by
  have hd₁ := start_sound hd
  have hk : d.nextStream ≤ d.start.1.engine.attempts := by
    obtain ⟨-, -, board, log, -, heq⟩ := start_eq_of_done hstart
    rw [heq]
    exact Nat.le_refl _
  have hahead : d.start.1.Ahead d.engine.store.snapshot.bridgeEpoch 0 := by
    rw [← Engine.start_snapshot, ← d.start_engine.1]
    exact d.start.1.ahead_self
  -- The write begins no tick, so the ticks are those before it and those after it.
  have hsplit : seen = before ++ ofStream d.nextStream
      (((d.start.1.after first).step (.configure command)).1.gather snapshotAt? rest) := by
    rw [hseen, hbefore, gather_append, ofStream_append]
    rfl
  rw [hsplit, List.length_append] at hlt
  obtain ⟨s, later, hlater⟩ := List.exists_cons_of_length_pos (Nat.lt_add_right_iff_pos.mp hlt)
  have hwrite := hd₁.after first
  have hne : s.bridgeEpoch ≠ lastSeen d.engine.store.snapshot.bridgeEpoch
      (before.map (·.bridgeEpoch)) := by
    rcases hahead.after d.nextStream (.configure command :: rest) first hd₁ hk hsparse.hasRoom
      hsparse with hpast | ⟨pending, hahead', hroom⟩
    · have hnone := gather_of_past rest (hwrite.after [.configure command])
        (past_after hwrite hpast [.configure command])
      exact absurd (hlater.symm.trans hnone) (by simp)
    · have hone :
          ((d.start.1.after first).selectionAt? (.configure command)).toList.length = 1 := by
        obtain ⟨b, hb⟩ := Option.isSome_iff_exists.mp hselected
        simp [selectionAt?, hb]
      have hroom' := hroom.of_cons rfl
      have hahead'' := hahead'.step (.configure command)
      rw [hone] at hroom' hahead''
      rw [hbefore]
      have hk' := Nat.le_trans (Nat.le_trans hk (attempts_le_after hd₁ first))
        (attempts_le_after hwrite [.configure command])
      exact hahead''.next_tick rest (hwrite.after [.configure command]) hk' (Nat.succ_pos _) hroom'
        hlater
  rw [hsplit, hlater, List.append_cons, List.map_append, List.map_append, List.map_singleton,
    seesChange_append (by simp)]
  have hlength : before.length = (before.map (·.bridgeEpoch)).length := (List.length_map _).symm
  rw [hlength, seesChange_length, bne_iff_ne]
  exact hne

/-- If the bridge is selected while a stream runs, none of its ticks within the settling time
from there on brings a row. As long as it is not, the startup discard alone is guarded,
whatever was selected before the start. -/
theorem settles_while_running {d : Driver β} (hd : d.Reachable) (hstart : d.start.2 = .done) :
    (∀ first command rest,
      (command.selected? (d.start.1.after first).engine.store).isSome →
      d.start.1.SelectsSparsely (first ++ .configure command :: rest) →
      ∀ t r, ((d.start.1.after (first ++ .configure command :: rest)).engine.ticksOf
          d.nextStream)[t]? = some r →
        (ofStream d.nextStream (d.start.1.gather snapshotAt? first)).length ≤ t →
        t < (ofStream d.nextStream (d.start.1.gather snapshotAt? first)).length +
          d.engine.plan.settlingTicks →
        r.result.isRow = false) ∧
    ∀ commands, d.start.1.gather selectionAt? commands = [] →
      ∀ t r, ((d.start.1.after commands).engine.ticksOf d.nextStream)[t]? = some r →
        (r.guarded = true ↔ t < d.engine.plan.startupDiscard) := by
  constructor
  · intro first command rest hselected hsparse t r hr hfrom hto
    obtain ⟨hlt, hnoRow, hguarded⟩ := guarded_iff hd.sound hstart hr
    have hsees := seesChange_of_selected hd.sound hstart hsparse hselected rfl rfl
      (Nat.lt_of_le_of_lt hfrom hlt)
    exact hnoRow (hguarded.mpr (.inr ⟨_, hfrom, hto, hsees⟩))
  · intro commands hnone t r hr
    obtain ⟨-, -, hguarded⟩ := guarded_iff hd.sound hstart hr
    rw [hguarded, InWindow, or_iff_left]
    rintro ⟨u, -, -, hsees⟩
    rw [seesChange_eq_false, Bool.false_eq_true] at hsees
    · exact hsees
    · intro epoch hepoch
      obtain ⟨s, hs, rfl⟩ := List.mem_map.mp hepoch
      obtain ⟨p, hp, hsome⟩ := List.mem_filterMap.mp hs
      split at hsome
      · cases hsome
        rw [epochs_of_unselected commands hnone p hp, d.start_engine.1, Engine.start_snapshot]
      · cases hsome

theorem settles_while_running_scripted :
    readied.start.2 = .done ∧
      ((Settings.Command.setBridge 1).selected?
        (readied.start.1.after [.tick 0]).engine.store).isSome = true ∧
      ∀ t r, ((readied.start.1.after
          [.tick 0, .configure (.setBridge 1), .tick 0, .tick 0]).engine.ticksOf 1)[t]? = some r →
        1 ≤ t → t < 51 → r.result.isRow = false :=
  ⟨rfl, rfl, (settles_while_running (.of_build scripted_build _) rfl).1 [.tick 0] (.setBridge 1)
    [.tick 0, .tick 0] rfl (.of_length (by decide))⟩

/-- A stream that starts after a selection brings rows within the settling time. -/
theorem unsettled_after_start :
    ((Settings.Command.setBridge 1).selected? readied.engine.store).isSome = true ∧
      readied.engine.plan.settlingTicks = 50 ∧
      (((readied.after [.configure (.setBridge 1), .start, .tick 0, .tick 0, .tick 0]).engine.ticksOf
        1).map fun r => r.result.isRow) = [false, false, true] := by
  decide

end Driver

end QuadDaq

import QuadDaq.Proofs.Driver.Engines
import QuadDaq.Proofs.Driver.Streams

/-!
# Streams are routed coherently

**The board is always read on the bridge of the snapshot that the tick uses**
(`readings_after`). The sampler compares epochs and not bridges, so this needs that fewer than
`2 ^ 64` commits select a bridge without a tick between them (`SelectsSparsely`); whether they
fall into a stream or between two of them does not matter.

**The calls of a stream are what its snapshots say** (`asked_after`): conversions are switched
on, the bridge of the start is selected, each tick that sees a new epoch selects its bridge
and then reads, each other tick just reads, and conversions are switched off when the board is
handed back.
-/

namespace QuadDaq.Driver

variable {β : Type}

/-- The bridge that a command selects in the store. -/
def selectionAt? (d : Driver β) : Command β → Option Bridge
  | .configure command => command.selected? d.engine.store
  | _ => none

section Board

variable [Board β]

/-- Wherever no tick begins among the commands, fewer than `2 ^ 64` of them select a bridge. -/
def SelectsSparsely (d : Driver β) (commands : List (Command β)) : Prop :=
  ∀ first middle rest, commands = first ++ middle ++ rest →
    (d.after first).gather snapshotAt? middle = [] →
    ((d.after first).gather selectionAt? middle).length < 2 ^ 64

/-- The commands up to the next tick select fewer bridges than that even if so many were
selected already. -/
def HasRoom (d : Driver β) (pending : Nat) (commands : List (Command β)) : Prop :=
  ∀ middle rest, commands = middle ++ rest → d.gather snapshotAt? middle = [] →
    pending + (d.gather selectionAt? middle).length < 2 ^ 64

/-- Every start among the commands is refused. -/
def StartsNoOther (d : Driver β) (commands : List (Command β)) : Prop :=
  ∀ first rest, commands = first ++ .start :: rest →
    ∃ error, (d.after first).start.2 = .refused error

theorem SelectsSparsely.hasRoom {d : Driver β} {commands : List (Command β)}
    (h : d.SelectsSparsely commands) : d.HasRoom 0 commands := by
  intro middle rest heq hnone
  rw [Nat.zero_add]
  exact h [] middle rest heq hnone

theorem SelectsSparsely.of_cons {d : Driver β} {command : Command β} {rest : List (Command β)}
    (h : d.SelectsSparsely (command :: rest)) : (d.step command).1.SelectsSparsely rest := by
  rintro first middle last rfl hnone
  exact h (command :: first) middle last rfl hnone

theorem HasRoom.mono {d : Driver β} {pending pending' : Nat} {commands : List (Command β)}
    (h : d.HasRoom pending commands) (hle : pending' ≤ pending) : d.HasRoom pending' commands := by
  intro middle rest heq hnone
  exact Nat.lt_of_le_of_lt (Nat.add_le_add_right hle _) (h middle rest heq hnone)

theorem HasRoom.of_cons {d : Driver β} {pending : Nat} {command : Command β}
    {rest : List (Command β)} (h : d.HasRoom pending (command :: rest))
    (hnone : d.snapshotAt? command = none) :
    (d.step command).1.HasRoom (pending + (d.selectionAt? command).toList.length) rest := by
  rintro middle last rfl hgather
  have hroom := h (command :: middle) last rfl (by rw [gather, hnone, hgather]; rfl)
  rwa [gather, List.length_append, ← Nat.add_assoc] at hroom

/-- After a command there is room again: a tick takes notice of all selections before it. -/
theorem HasRoom.after_step {d : Driver β} {pending pending' : Nat} {command : Command β}
    {rest : List (Command β)} (h : d.HasRoom pending (command :: rest))
    (hsparse : d.SelectsSparsely (command :: rest))
    (hle : pending' ≤ if (d.snapshotAt? command).isSome then 0
      else pending + (d.selectionAt? command).toList.length) :
    (d.step command).1.HasRoom pending' rest := by
  cases hsnapshot : d.snapshotAt? command with
  | none =>
      rw [hsnapshot] at hle
      exact (h.of_cons hsnapshot).mono hle
  | some p =>
      rw [hsnapshot] at hle
      exact hsparse.of_cons.hasRoom.mono hle

theorem StartsNoOther.of_cons {d : Driver β} {command : Command β} {rest : List (Command β)}
    (h : d.StartsNoOther (command :: rest)) :
    (command = .start → ∃ error, d.start.2 = .refused error) ∧
      (d.step command).1.StartsNoOther rest := by
  constructor
  · rintro rfl
    exact h [] rest rfl
  · rintro first last rfl
    exact h (command :: first) last rfl

theorem StartsNoOther.of_not_mem {d : Driver β} {commands : List (Command β)}
    (h : Command.start ∉ commands) : d.StartsNoOther commands := by
  rintro first rest rfl
  exact absurd (List.mem_append_right _ List.mem_cons_self) h

/-- Each command gives one thing at most. -/
theorem length_gather_le {α : Type} (give : Driver β → Command β → Option α)
    (commands : List (Command β)) :
    ∀ d : Driver β, (d.gather give commands).length ≤ commands.length := by
  induction commands with
  | nil => exact fun _ => Nat.le_refl _
  | cons command rest ih =>
      intro d
      rw [gather, List.length_append, List.length_cons, Nat.add_comm]
      refine Nat.add_le_add (ih _) ?_
      cases give d command <;> simp

/-- A run would have to be very long for its selections to go unnoticed. -/
theorem SelectsSparsely.of_length {d : Driver β} {commands : List (Command β)}
    (h : commands.length < 2 ^ 64) : d.SelectsSparsely commands := by
  rintro first middle rest rfl -
  refine Nat.lt_of_le_of_lt (length_gather_le _ _ _) ?_
  simp only [List.length_append] at h
  omega

/-! ### The ends of runs -/

/-- The end of a tick winds up its run or lets it go on, and leaves the store alone. -/
theorem completeTick_winds {d : Driver β} (hc : d.engine.Coherent) {run : Run}
    (hrun : d.engine.run = some run) (tick : OpenTick) :
    Engine.Winds run d.engine (d.completeTick run tick).engine ∧
      (d.completeTick run tick).engine.store = d.engine.store :=
  ⟨Engine.endTick_winds tick (hc.running.mp (by rw [hrun]; rfl)), (Engine.endTick_keeps _ run tick).store⟩

/-- A stop winds up the run, or is refused. -/
theorem stop_cases (d : Driver β) (hc : d.engine.Coherent) :
    d.stop.1.engine = d.engine ∨ ∃ run, d.engine.run = some run ∧
      Engine.Winds run d.engine d.stop.1.engine ∧
      d.stop.1.engine.store.snapshot = d.engine.store.snapshot := by
  rw [d.stop_engine.1]
  by_cases hphase : d.engine.phase = .running
  · obtain ⟨run, hrun⟩ :=
      Option.isSome_iff_exists.mp (hc.running.mpr (.inl (hc.sampling.mp hphase)))
    exact .inr ⟨run, hrun, Engine.stop_winds hphase hrun, Engine.stop_snapshot d.engine⟩
  · rw [Engine.stop_eq_of_ne hphase]
    exact .inl rfl

/-! ### Readings -/

/-- One command reads the board at most once, and on the bridge of the snapshot that its tick
uses. -/
structure ReadsRouted (d d' : Driver β) (snapshot? : Option (Nat × Settings.Snapshot))
    (pending : Nat) : Prop where
  routed : d'.engine.Routed pending
  readings : readings d'.engine.calls =
    readings d.engine.calls ++ snapshot?.toList.map fun p => ⟨true, some p.2.bridge⟩

omit [Board β] in
theorem ReadsRouted.of_same {d d' : Driver β} {pending : Nat} (h : d.engine.Routed pending)
    (hrun : d'.engine.run = d.engine.run)
    (hsnapshot : d'.engine.store.snapshot = d.engine.store.snapshot)
    (hcalls : d'.engine.calls = d.engine.calls) : d.ReadsRouted d' none pending :=
  ⟨h.of_same hrun hsnapshot hcalls, by rw [hcalls]; exact (List.append_nil _).symm⟩

theorem ReadsRouted.completeTick {d d' : Driver β} {pending : Nat}
    {snapshot? : Option (Nat × Settings.Snapshot)} (h : d.ReadsRouted d' snapshot? pending)
    (hc : d'.engine.Coherent) {run : Run} (hrun : d'.engine.run = some run) (tick : OpenTick) :
    d.ReadsRouted (d'.completeTick run tick) snapshot? pending := by
  obtain ⟨hwinds, hstore⟩ := completeTick_winds hc hrun tick
  obtain ⟨hrouted, hreadings⟩ := hwinds.routed hrun (congrArg _ hstore) h.routed
  exact ⟨hrouted, hreadings.trans h.readings⟩

theorem tick_readsRouted {d : Driver β} (hd : d.Sound) {pending : Nat} (h : d.engine.Routed pending)
    (hpending : pending < 2 ^ 64) (lag : Duration) :
    ∃ pending' ≤ if (d.snapshotAt? (.tick lag)).isSome then 0 else pending,
      d.ReadsRouted (d.tick lag).1 (d.snapshotAt? (.tick lag)) pending' := by
  rcases d.tick_cases lag with ⟨hready, heq⟩ |
    ⟨run, run', tick, hready, hrun, hrun', -, -, -, heq⟩
  · rw [heq, snapshotAt?, if_neg hready]
    exact ⟨pending, Nat.le_refl _, .of_same h rfl rfl rfl⟩
  · have hbegun : Move false d (d.begun run lag) := begun_move lag hready hrun
    obtain ⟨hrouted, hreadings⟩ := h.beginTick hpending hrun lag
    rw [heq, snapshotAt?, if_pos hready, hrun]
    refine ⟨0, Nat.zero_le _, ?_⟩
    have hreads : d.ReadsRouted (d.begun run lag) (some (run.stream, d.engine.store.snapshot)) 0 :=
      ⟨hrouted, hreadings⟩
    by_cases hheld : d.readHeld
    · rw [if_pos hheld]
      exact ⟨hreads.routed, hreads.readings⟩
    · rw [if_neg hheld]
      exact hreads.completeTick (hbegun.linked hd.toLinked).coherent hrun' tick

/-- A command leaves the board routed, and a tick reads it on the bridge of its snapshot. -/
theorem step_readsRouted [Board.Obliging β] {d : Driver β} (hd : d.Sound) {pending : Nat}
    (h : d.engine.Routed pending) (hpending : pending < 2 ^ 64) (command : Command β) :
    ∃ pending' ≤ if (d.snapshotAt? command).isSome then 0
        else pending + (d.selectionAt? command).toList.length,
      d.ReadsRouted (d.step command).1 (d.snapshotAt? command) pending' := by
  cases command with
  | start =>
      simp only [step]
      rcases d.engine.start_calls with ⟨e', outcome, heq, -, hrun, -, hsnapshot, hcalls⟩ |
        ⟨e', heq, hparked, hrun, hcalls⟩ | ⟨board, log, heq, hlog⟩
      · have hengine : d.start.1.engine = e' := by rw [d.start_engine.1, heq]
        rw [← hengine] at hrun hsnapshot hcalls
        exact ⟨pending, Nat.le_refl _, .of_same h hrun hsnapshot hcalls⟩
      · -- The board is lost, so no stream will read it.
        have hengine : d.start.1.engine = e' := by rw [d.start_engine.1, heq]
        refine ⟨pending, Nat.le_refl _, ?_, ?_⟩
        · intro run hrun'
          rw [hengine, hrun, hd.coherent.run_eq_none hparked] at hrun'
          cases hrun'
        · rw [hengine, hcalls, readings_append]
          rfl
      · have hengine : d.start.1.engine = d.engine.started board log := by
          rw [d.start_engine.1, heq]
        obtain ⟨hrouted, hreadings⟩ := Engine.started_routed hlog
        refine ⟨0, Nat.zero_le _, ?_, ?_⟩
        · rw [hengine]
          exact hrouted
        · rw [hengine]
          exact hreadings.trans (List.append_nil _).symm
  | stop =>
      simp only [step]
      refine ⟨pending, Nat.le_refl _, ?_⟩
      rcases d.stop_cases hd.coherent with heq | ⟨run, hrun, hwinds, hsnapshot⟩
      · exact .of_same h (by rw [heq]) (by rw [heq]) (by rw [heq])
      · obtain ⟨hrouted, hreadings⟩ := hwinds.routed hrun hsnapshot h
        exact ⟨hrouted, hreadings.trans (List.append_nil _).symm⟩
  | tick lag => exact tick_readsRouted hd h hpending lag
  | configure command =>
      refine ⟨_, Nat.le_refl _, ?_⟩
      simp only [step, configure, Engine.configure, snapshotAt?, selectionAt?]
      cases hwrote : command.run d.engine.store with
      | ok store => exact ⟨h.wrote hwrote, (List.append_nil _).symm⟩
      | error refusal =>
          rw [Settings.Command.selected?_of_error hwrote]
          exact .of_same h rfl rfl rfl
  | releaseRead =>
      refine ⟨pending, Nat.le_refl _, ?_⟩
      have hreturns : d.ReadsRouted { d with readHeld := false } none pending :=
        .of_same h rfl rfl rfl
      simp only [step, snapshotAt?]
      rcases d.releaseRead_cases with ⟨run, tick, hrun, -, heq⟩ | ⟨-, heq⟩
      · rw [heq]
        exact hreturns.completeTick hd.coherent hrun tick
      · rw [heq]
        exact hreturns
  | register kind consumer =>
      refine ⟨pending, Nat.le_refl _, ?_⟩
      simp only [step, register]
      split <;> exact .of_same h rfl rfl rfl
  | hold kind => exact ⟨pending, Nat.le_refl _, .of_same h rfl rfl rfl⟩
  | unhold kind => exact ⟨pending, Nat.le_refl _, .of_same h rfl rfl rfl⟩
  | release kind => exact ⟨pending, Nat.le_refl _, .of_same h rfl rfl rfl⟩
  | finish stream kind => exact ⟨pending, Nat.le_refl _, .of_same h rfl rfl rfl⟩
  | holdRead => exact ⟨pending, Nat.le_refl _, .of_same h rfl rfl rfl⟩
  | disturb change => exact ⟨pending, Nat.le_refl _, .of_same h rfl rfl rfl⟩

/-- The board is read once for each tick that begins, on the bridge of its snapshot. -/
theorem readings_after [Board.Obliging β] (commands : List (Command β)) :
    ∀ {d : Driver β} {pending : Nat}, d.Sound → d.engine.Routed pending →
      d.HasRoom pending commands → d.SelectsSparsely commands →
      readings (d.after commands).engine.calls = readings d.engine.calls ++
        (d.gather snapshotAt? commands).map fun p => ⟨true, some p.2.bridge⟩ := by
  induction commands with
  | nil => exact fun _ _ _ _ => (List.append_nil _).symm
  | cons command rest ih =>
      intro d pending hd hrouted hroom hsparse
      have hpending : pending < 2 ^ 64 := hroom [] (command :: rest) rfl rfl
      obtain ⟨pending', hle, hreads⟩ := step_readsRouted hd hrouted hpending command
      have hroom' := hroom.after_step hsparse hle
      have hd' : (d.step command).1.Sound := hd.after [command]
      rw [after_cons, gather, ih hd' hreads.routed hroom' hsparse.of_cons, List.map_append,
        ← List.append_assoc, ← hreads.readings]

/-! ### The calls of a stream -/

/-- Where the engine stands with a stream that was started on a snapshot after these calls,
and whose ticks saw these, as long as no other stream is started. -/
inductive Asked (k : Nat) (calls : List BoardCall) (start : Settings.Snapshot)
    (seen : List Settings.Snapshot) (e : Engine β) : Prop
  /-- The stream has the board. -/
  | live {run : Run} :
      e.run = some run →
      run.stream = k →
      run.sampler.epoch = lastSeen start.bridgeEpoch (seen.map (·.bridgeEpoch)) →
      (Board.ReadsReturn β → run.crashed = false) →
      e.custody = .sampling ∨ e.custody = .awaited ∧ run.openTick.isSome →
      e.calls = calls ++ streamCalls start seen →
      Asked k calls start seen e
  /-- The stream has handed it back. -/
  | handedBack :
      e.run = none →
      e.custody = .parked →
      e.calls = calls ++ streamCalls start seen ++ [.measure false] →
      Asked k calls start seen e
  /-- A read took it away. -/
  | lost :
      e.run = none →
      e.custody = .lost →
      ¬Board.ReadsReturn β →
      e.calls = calls ++ streamCalls start seen →
      Asked k calls start seen e

section Asked

variable {k : Nat} {calls : List BoardCall} {start : Settings.Snapshot}
  {seen : List Settings.Snapshot} {e e' : Engine β}

theorem Asked.of_same (h : Asked k calls start seen e) (hrun : e'.run = e.run)
    (hcustody : e'.custody = e.custody) (hcalls : e'.calls = e.calls) :
    Asked k calls start seen e' := by
  cases h with
  | live hlive hstream hepoch hcrashed hhas hasked =>
      exact .live (hrun.trans hlive) hstream hepoch hcrashed (hcustody ▸ hhas) (hcalls.trans hasked)
  | handedBack hnone hparked hasked =>
      exact .handedBack (hrun.trans hnone) (hcustody.trans hparked) (hcalls.trans hasked)
  | lost hnone hlost hreads hasked =>
      exact .lost (hrun.trans hnone) (hcustody.trans hlost) hreads (hcalls.trans hasked)

theorem Asked.winds (h : Asked k calls start seen e) {run : Run} (hrun : e.run = some run)
    (hw : Engine.Winds run e e') : Asked k calls start seen e' := by
  cases h with
  | live hlive hstream hepoch hcrashed hhas hasked =>
      obtain rfl := Option.some.inj (hrun.symm.trans hlive)
      cases hw with
      | goesOn hrun' hstream' hepoch' hcrashed' hhas' hcalls =>
          exact .live hrun' (hstream'.trans hstream) (hepoch'.trans hepoch)
            (fun hreads => (hcrashed' hreads).trans (hcrashed hreads)) hhas' (hcalls.trans hasked)
      | handsBack hnone hparked hcalls =>
          exact .handedBack hnone hparked (hcalls.trans (by rw [hasked]))
      | loses hnone hlost hcrashed' hcalls =>
          refine .lost hnone hlost (fun hreads => ?_) (hcalls.trans hasked)
          rw [hcrashed hreads] at hcrashed'
          cases hcrashed' hreads
  | handedBack hnone _ _ => exact absurd (hnone.symm.trans hrun) (by simp)
  | lost hnone _ _ _ => exact absurd (hnone.symm.trans hrun) (by simp)

/-- A tick of the stream asks for what its snapshot says. -/
theorem Asked.beginTick (h : Asked k calls start seen e) {run : Run} (hrun : e.run = some run)
    (hcustody : e.custody = .sampling) (lag : Duration) :
    run.stream = k ∧
      Asked k calls start (seen ++ [e.store.snapshot]) (e.beginTick run lag).1 := by
  cases h with
  | live hlive hstream hepoch hcrashed hhas hasked =>
      obtain rfl := Option.some.inj (hrun.symm.trans hlive)
      have hcalls := e.beginTick_calls run lag
      obtain ⟨board, button, polled, log, signals, heq, -⟩ := e.beginTick_eq run lag
      refine ⟨hstream, ?_⟩
      rw [hasked, hepoch, streamCalls, List.append_assoc, List.cons_append, List.cons_append,
        ← tickCalls_concat] at hcalls
      rw [heq] at hcalls ⊢
      refine .live rfl hstream ?_ hcrashed (.inl hcustody) hcalls
      rw [List.map_append, List.map_singleton, lastSeen_append_singleton]
      exact run.sampler.observe_epoch _
  | handedBack hnone _ _ => exact absurd (hnone.symm.trans hrun) (by simp)
  | lost hnone _ _ _ => exact absurd (hnone.symm.trans hrun) (by simp)

theorem Asked.completeTick {d : Driver β} (hc : d.engine.Coherent)
    (h : Asked k calls start seen d.engine) {run : Run} (hrun : d.engine.run = some run)
    (tick : OpenTick) : Asked k calls start seen (d.completeTick run tick).engine :=
  h.winds hrun (completeTick_winds hc hrun tick).1

theorem Asked.tick {d : Driver β} (hd : d.Sound) (h : Asked k calls start seen d.engine)
    (lag : Duration) :
    Asked k calls start (seen ++ ofStream k (d.snapshotAt? (.tick lag)).toList)
      (d.tick lag).1.engine := by
  rcases d.tick_cases lag with ⟨hready, heq⟩ |
    ⟨run, run', tick, hready, hrun, hrun', -, -, -, heq⟩
  · rw [heq, snapshotAt?, if_neg hready, Option.toList_none, ofStream_nil, List.append_nil]
    exact h
  · have hbegun : Move false d (d.begun run lag) := begun_move lag hready hrun
    have hcustody := hd.coherent.sampling.mp (readiness_eq_done.mp hready).1
    obtain ⟨hstream, hasked⟩ := h.beginTick hrun hcustody lag
    rw [heq, snapshotAt?, if_pos hready, hrun, Option.map_some, Option.toList_some,
      ofStream_singleton, if_pos hstream]
    by_cases hheld : d.readHeld
    · rw [if_pos hheld]
      exact hasked
    · rw [if_neg hheld]
      exact Asked.completeTick (d := d.begun run lag) (hbegun.linked hd.toLinked).coherent hasked
        hrun' tick

/-- A command that starts no other stream asks for what a tick of the stream sees. -/
theorem Asked.step [Board.Obliging β] {d : Driver β} (hd : d.Sound)
    (h : Asked k calls start seen d.engine) (command : Command β)
    (hstart : command = .start → ∃ error, d.start.2 = .refused error) :
    Asked k calls start (seen ++ ofStream k (d.snapshotAt? command).toList)
      (d.step command).1.engine := by
  have hsame :
      seen ++ ofStream k (Option.toList (none : Option (Nat × Settings.Snapshot))) = seen :=
    List.append_nil _
  cases command with
  | tick lag => exact h.tick hd lag
  | start =>
      obtain ⟨error, hrefused⟩ := hstart rfl
      rw [d.start_engine.2] at hrefused
      simp only [Driver.step, snapshotAt?, hsame]
      rcases d.engine.start_calls with ⟨e', outcome, heq, -, hrun, hcustody, -, hcalls⟩ |
        ⟨e', heq, -⟩ | ⟨board, log, heq, -⟩
      · rw [d.start_engine.1, heq]
        exact h.of_same hrun hcustody hcalls
      · rw [heq] at hrefused
        cases hrefused
      · rw [heq] at hrefused
        cases hrefused
  | stop =>
      simp only [Driver.step, snapshotAt?, hsame]
      rcases d.stop_cases hd.coherent with heq | ⟨run, hrun, hwinds, -⟩
      · rw [heq]
        exact h
      · exact h.winds hrun hwinds
  | releaseRead =>
      simp only [Driver.step, snapshotAt?, hsame]
      rcases d.releaseRead_cases with ⟨run, tick, hrun, -, heq⟩ | ⟨-, heq⟩
      · rw [heq]
        exact Asked.completeTick (d := { d with readHeld := false }) hd.coherent h hrun tick
      · rw [heq]
        exact h
  | register kind consumer =>
      simp only [Driver.step, snapshotAt?, hsame, register]
      split <;> exact h
  | configure command =>
      simp only [Driver.step, snapshotAt?, hsame, configure, Engine.configure]
      split <;> exact h.of_same rfl rfl rfl
  | hold kind => exact hsame.symm ▸ h
  | unhold kind => exact hsame.symm ▸ h
  | release kind => exact hsame.symm ▸ h
  | finish stream kind => exact hsame.symm ▸ h
  | holdRead => exact hsame.symm ▸ h
  | disturb change => exact hsame.symm ▸ h.of_same rfl rfl rfl

theorem asked_after [Board.Obliging β] (commands : List (Command β)) :
    ∀ {d : Driver β} {seen : List Settings.Snapshot}, d.Sound → Asked k calls start seen d.engine →
      d.StartsNoOther commands →
      Asked k calls start (seen ++ ofStream k (d.gather snapshotAt? commands))
        (d.after commands).engine := by
  induction commands with
  | nil => exact fun _ h _ => (List.append_nil _).symm ▸ h
  | cons command rest ih =>
      intro d seen hd h hother
      obtain ⟨hstart, hrest⟩ := hother.of_cons
      have hd' : (d.step command).1.Sound := hd.after [command]
      rw [gather, ofStream_append, ← List.append_assoc]
      exact ih hd' (h.step hd command hstart) hrest

end Asked

/-- What a stream has asked its board for, from the start of it in one state up to another one
without a start of another stream, when its ticks saw these snapshots. -/
structure AsksFor (d d' : Driver β) (seen : List Settings.Snapshot) : Prop where
  /-- Conversions are on from the start until the board is handed back. -/
  calls : d'.engine.calls = d.engine.calls ++ streamCalls d.engine.store.snapshot seen ++
    if d'.engine.custody = .parked then [.measure false] else []
  /-- A stream that is stopped hands the board back as soon as its last read has returned. -/
  handsBack : Board.ReadsReturn β → d'.engine.phase ≠ .running → d'.engine.openTick? = none →
    d'.engine.custody = .parked
  /-- A driver that is given up between two ticks hands it back at once. -/
  shutDown : d'.readiness = .done →
    d'.shutDown.engine.calls = d'.engine.calls ++ [.measure false]

/-- A stream that can tick hands the board back when it is stopped. -/
theorem shutDown_calls {d : Driver β} (h : d.readiness = .done) :
    d.shutDown.engine.calls = d.engine.calls ++ [.measure false] := by
  obtain ⟨hphase, run, hrun, hcrashed, hclosed⟩ := readiness_eq_done.mp h
  rw [Driver.shutDown, d.stop_engine.1]
  simp only [Engine.stop, hphase, hrun, hcrashed, hclosed, Bool.false_eq_true, if_false,
    Option.isSome_none]
  exact d.engine.handBack_calls run

/-- Conversions are on from the start until the board is handed back. -/
theorem Asked.calls_eq {k : Nat} {calls : List BoardCall} {start : Settings.Snapshot}
    {seen : List Settings.Snapshot} {e : Engine β} (h : Asked k calls start seen e) :
    e.calls = calls ++ streamCalls start seen ++
      if e.custody = .parked then [.measure false] else [] := by
  cases h with
  | live _ _ _ _ hhas hasked =>
      rw [hasked, if_neg, List.append_nil]
      rcases hhas with hsampling | ⟨hawaited, -⟩
      · simp [hsampling]
      · simp [hawaited]
  | handedBack _ hparked hasked => rw [hasked, if_pos hparked]
  | lost _ hlost _ hasked => rw [hasked, if_neg (by simp [hlost]), List.append_nil]

/-- As long as no tick sees another epoch, every read takes place on the bridge of the start. -/
theorem Asked.readings_of_unseen {k : Nat} {calls : List BoardCall} {start : Settings.Snapshot}
    {seen : List Settings.Snapshot} {e : Engine β} (h : Asked k calls start seen e)
    (hunseen : ∀ s ∈ seen, s.bridgeEpoch = start.bridgeEpoch) :
    readings e.calls =
      readings calls ++ List.replicate seen.length ⟨true, some start.bridge⟩ := by
  have hoff : ∀ s : Standing,
      readingsFrom s (if e.custody = .parked then [.measure false] else []) = [] := by
    intro s
    split <;> rfl
  rw [h.calls_eq, List.append_assoc, readings_append, streamCalls, tickCalls_of_unseen hunseen]
  simp only [List.cons_append, readingsFrom, Standing.after, readingsFrom_replicate, hoff,
    List.append_nil]

theorem Asked.asksFor {d d' : Driver β} (hd' : d'.Sound) {k : Nat} {seen : List Settings.Snapshot}
    (h : Asked k d.engine.calls d.engine.store.snapshot seen d'.engine) : d.AsksFor d' seen := by
  have hcoherent := hd'.coherent
  refine ⟨h.calls_eq, ?_, shutDown_calls⟩
  intro hreads hphase hclosed
  cases h with
  | live hlive _ _ _ hhas _ =>
      -- The stream does not run any more, but its last read has not returned.
      obtain ⟨-, hopen⟩ :=
        hhas.resolve_left fun hsampling => hphase (hcoherent.sampling.mpr hsampling)
      simp only [Engine.openTick?, hlive, Option.bind_some, Option.map_eq_none_iff] at hclosed
      rw [hclosed] at hopen
      cases hopen
  | handedBack _ hparked _ => exact hparked
  | lost _ _ hcrashes _ => exact absurd hreads hcrashes

/-- In every run of a driver the board is read once for each tick, measuring, and on the bridge
of the snapshot that the tick uses. From the start of a stream to that of the next one its
calls are those that its snapshots say. -/
theorem routed_coherently [Board.Obliging β] {plan : DriverPlan β} {new : Driver β}
    (hbuild : plan.build = .ok new) :
    (∀ commands, new.SelectsSparsely commands →
      readings (new.after commands).engine.calls =
        (new.gather snapshotAt? commands).map fun p => ⟨true, some p.2.bridge⟩) ∧
    ∀ first, (new.after first).start.2 = .done →
      ∀ commands, (new.after first).start.1.StartsNoOther commands →
        (new.after first).AsksFor ((new.after first).start.1.after commands)
          (ofStream (new.after first).nextStream
            ((new.after first).start.1.gather snapshotAt? commands)) := by
  have hnew := sound_of_build hbuild
  constructor
  · intro commands hsparse
    obtain ⟨board, store, -, -, rfl⟩ := build_inv hbuild
    have hrouted : Engine.Routed (plan.engine board store) 0 := by
      intro run hrun
      cases hrun
    exact readings_after commands hnew hrouted hsparse.hasRoom hsparse
  · intro first hdone commands hother
    have hd := hnew.after first
    generalize new.after first = d at hdone hother hd ⊢
    have hstarted :
        Asked d.nextStream d.engine.calls d.engine.store.snapshot [] d.start.1.engine := by
      rw [d.start_engine.2] at hdone
      rcases d.engine.start_calls with ⟨e', outcome, heq, hne, -⟩ | ⟨e', heq, -⟩ |
        ⟨board, log, heq, hlog⟩
      · rw [heq] at hdone
        exact absurd hdone hne
      · rw [heq] at hdone
        cases hdone
      · rw [d.start_engine.1, heq]
        exact .live rfl rfl rfl (fun _ => rfl) (.inl rfl) hlog
    have hasked := asked_after commands (start_sound hd) hstarted hother
    exact hasked.asksFor ((start_sound hd).after commands)

theorem routed_coherently_scripted :
    scripted.build = .ok scriptedDriver ∧ scriptedDriver.start.2 = .done ∧
      readings (scriptedDriver.after
          [.start, .tick 0, .configure (.setBridge 1), .tick 0, .stop]).engine.calls =
        [⟨true, some .off⟩, ⟨true, some .on⟩] ∧
      (scriptedDriver.start.1.after
          [.tick 0, .configure (.setBridge 1), .tick 0, .stop]).engine.calls =
        [.measure true, .select .off, .read, .select .on, .read, .measure false] ∧
      (scriptedDriver.start.1.after
          [.tick 0, .configure (.setBridge 1), .tick 0, .stop]).engine.custody = .parked := by
  obtain ⟨hreadings, hasks⟩ := routed_coherently scripted_build
  have hother : scriptedDriver.start.1.StartsNoOther
      [.tick 0, .configure (.setBridge 1), .tick 0, .stop] := by
    intro first rest heq
    have hmem : Command.start ∈ [(.tick 0 : Command Board.Scripted), .configure (.setBridge 1),
        .tick 0, .stop] := by
      rw [heq]
      exact List.mem_append_right _ List.mem_cons_self
    simp at hmem
  have hstream := hasks [] rfl _ hother
  simp only [after_nil] at hstream
  refine ⟨rfl, rfl, ?_, ?_, ?_⟩
  · rw [hreadings _ (.of_length (by decide))]
    decide
  · rw [hstream.calls]
    decide
  · exact hstream.handsBack Board.Scripted.readsReturn (by decide) rfl

end Board

end QuadDaq.Driver

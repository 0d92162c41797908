import QuadDaq.Proofs.Driver.Runs

/-!
# What a run gives to the ticks of a stream

**The inputs of a stream, read off the states of the driver and not off its log.** A tick
command that can begin takes the snapshot that is in the store at that moment
(`snapshotAt?`). A command that lets a read return gives what the board answers in that
moment (`outcomeAt?`). Gathered along a run, these are the snapshots and the outcomes that
the engine keeps (`snapshotsOf_after`, `outcomesOf_after`).
-/

namespace QuadDaq.Driver

variable {β : Type} [Board β]

/-- The snapshot on which a command begins a tick, with the number of its stream. -/
def snapshotAt? (d : Driver β) : Command β → Option (Nat × Settings.Snapshot)
  | .tick _ =>
    if d.readiness = .done then
      d.engine.run.map fun run => (run.stream, d.engine.store.snapshot)
    else none
  | _ => none

/-- How the read ends that a command lets return, with the number of its stream. -/
def outcomeAt? (d : Driver β) : Command β → Option (Nat × ReadOutcome)
  | .tick lag =>
    if d.readiness = .done ∧ ¬d.readHeld then
      d.engine.run.map fun run =>
        let e := (d.engine.beginTick run lag).1
        (run.stream, (Board.read e.config.readTimeout e.board).2)
    else none
  | .releaseRead =>
    d.engine.openTick?.map fun p =>
      (p.1, (Board.read d.engine.config.readTimeout d.engine.board).2)
  | _ => none

/-- What the commands of a run give, each in the state that it finds. -/
def gather {α : Type} (give : Driver β → Command β → Option α) :
    Driver β → List (Command β) → List α
  | _, [] => []
  | d, command :: rest => (give d command).toList ++ gather give (d.step command).1 rest

theorem gather_append {α : Type} (give : Driver β → Command β → Option α)
    (commands more : List (Command β)) :
    ∀ d : Driver β, d.gather give (commands ++ more) =
      d.gather give commands ++ (d.after commands).gather give more := by
  induction commands with
  | nil => exact fun _ => rfl
  | cons command rest ih =>
      intro d
      rw [List.cons_append, gather, gather, ih, after_cons, List.append_assoc]

/-- A command that is not about ticks. -/
theorem start_uneventful {d : Driver β} (hd : d.Sound) :
    d.engine.Uneventful d.start.1.engine := by
  unfold start
  rcases d.engine.start_cases with ⟨-, heq⟩ | ⟨-, e', outcome, heq, hne, -, hcourse, hrun, -⟩ |
    ⟨-, hparked, board, log, hlog, heq⟩
  · rw [heq]
    exact .of_course rfl rfl
  · have hopen : e'.openTick? = d.engine.openTick? := by
      rw [Engine.openTick?, hrun]
      rfl
    have huneventful : d.engine.Uneventful e' := .of_course hcourse hopen
    rw [heq]
    cases outcome with
    | done => exact absurd rfl hne
    | refused e => exact huneventful
    | brokenOff => exact huneventful
  · have hnone := hd.coherent.run_eq_none hparked
    rw [heq]
    exact .of_course hlog (by simp [Engine.openTick?, hnone, Engine.started, Engine.newRun])

theorem stop_uneventful {d : Driver β} (hd : d.Sound) : d.engine.Uneventful d.stop.1.engine := by
  unfold stop
  by_cases hphase : d.engine.phase = .running
  · obtain ⟨e', heq, -, -, huneventful, -⟩ := Engine.stop_eq_of_running hd.coherent hphase
    rw [heq]
    exact huneventful
  · rw [Engine.stop_eq_of_ne hphase]
    exact .of_course rfl rfl

/-- The inputs of a stream grow by these. -/
structure Gives (k : Nat) (d d' : Driver β) (snapshot? : Option (Nat × Settings.Snapshot))
    (outcome? : Option (Nat × ReadOutcome)) : Prop where
  snapshots : d'.engine.snapshotsOf k = d.engine.snapshotsOf k ++ ofStream k snapshot?.toList
  outcomes : d'.engine.outcomesOf k = d.engine.outcomesOf k ++ ofStream k outcome?.toList

omit [Board β] in
theorem Gives.of_uneventful {k : Nat} {d d' : Driver β} (h : d.engine.Uneventful d'.engine) :
    Gives k d d' none none :=
  ⟨h.history.1.trans (List.append_nil _).symm, h.history.2.trans (List.append_nil _).symm⟩

theorem tick_gives {d : Driver β} (hd : d.Sound) (lag : Duration) (k : Nat) :
    Gives k d (d.tick lag).1 (d.snapshotAt? (.tick lag)) (d.outcomeAt? (.tick lag)) := by
  rcases d.tick_cases lag with ⟨hready, heq⟩ |
    ⟨run, run', tick, hready, hrun, hrun', hstream, hopen, -, heq⟩
  · rw [heq, snapshotAt?, outcomeAt?, if_neg hready, if_neg fun h => hready h.1]
    exact .of_uneventful (.of_course rfl rfl)
  · -- The tick begins on the snapshot; only if reads are not held it ends as well.
    obtain ⟨-, run₀, hrun₀, -, hclosed⟩ := readiness_eq_done.mp hready
    obtain rfl : run = run₀ := Option.some.inj (hrun.symm.trans hrun₀)
    have hbegun : Move false d (d.begun run lag) := begun_move lag hready hrun
    obtain ⟨hsnapshots, houtcomes⟩ := Engine.beginTick_history (k := k) lag hrun hclosed
    rw [heq, snapshotAt?, if_pos hready, hrun, Option.map_some]
    by_cases hheld : d.readHeld
    · rw [if_pos hheld, outcomeAt?, if_neg fun h => h.2 hheld]
      exact ⟨hsnapshots, houtcomes.trans (List.append_nil _).symm⟩
    · rw [if_neg hheld, outcomeAt?, if_pos ⟨hready, hheld⟩, hrun, Option.map_some, ← hstream]
      have hcrashed := (hbegun.linked hd.toLinked).coherent.not_crashed hrun' hopen
      obtain ⟨hsnapshots', houtcomes'⟩ := Engine.endTick_history (k := k) hrun' hopen
        ((hbegun.sound hd).engine.crashesLast run' hrun' hcrashed)
      rw [← hstream] at hsnapshots
      exact ⟨hsnapshots'.trans hsnapshots, houtcomes'.trans (congrArg (· ++ _) houtcomes)⟩

theorem releaseRead_gives {d : Driver β} (hd : d.Sound) (k : Nat) :
    Gives k d d.releaseRead none (d.outcomeAt? .releaseRead) := by
  rcases d.releaseRead_cases with ⟨run, tick, hrun, hopen, heq⟩ | ⟨hclosed, heq⟩
  · have hcrashed := hd.coherent.not_crashed hrun hopen
    obtain ⟨hsnapshots, houtcomes⟩ := Engine.endTick_history (k := k) hrun hopen
      (hd.engine.crashesLast run hrun hcrashed)
    have hopen? : d.engine.openTick? = some (run.stream, tick) := by
      simp [Engine.openTick?, hrun, hopen]
    rw [heq, outcomeAt?, hopen?, Option.map_some]
    exact ⟨hsnapshots.trans (List.append_nil _).symm, houtcomes⟩
  · have hopen? : d.engine.openTick? = none := by
      cases hrun : d.engine.run with
      | none => simp [Engine.openTick?, hrun]
      | some run => simp [Engine.openTick?, hrun, hclosed run hrun]
    rw [heq, outcomeAt?, hopen?, Option.map_none]
    exact .of_uneventful (.of_course rfl rfl)

/-- Every command gives what the state that it finds says. -/
theorem step_gives {d : Driver β} (hd : d.Sound) (command : Command β) (k : Nat) :
    Gives k d (d.step command).1 (d.snapshotAt? command) (d.outcomeAt? command) := by
  cases command with
  | start => exact .of_uneventful (start_uneventful hd)
  | stop => exact .of_uneventful (stop_uneventful hd)
  | tick lag => exact tick_gives hd lag k
  | releaseRead => exact releaseRead_gives hd k
  | register kind consumer =>
      refine .of_uneventful ?_
      simp only [step, register]
      split <;> exact .of_course rfl rfl
  | configure command =>
      refine .of_uneventful ?_
      simp only [step, configure, Engine.configure]
      split <;> exact .of_course rfl rfl
  | hold kind => exact .of_uneventful (.of_course rfl rfl)
  | unhold kind => exact .of_uneventful (.of_course rfl rfl)
  | release kind => exact .of_uneventful (.of_course rfl rfl)
  | finish stream kind => exact .of_uneventful (.of_course rfl rfl)
  | holdRead => exact .of_uneventful (.of_course rfl rfl)
  | disturb change => exact .of_uneventful (.of_course rfl rfl)

/-- The inputs of a stream grow by what the commands of a run give. -/
theorem inputs_after (k : Nat) (commands : List (Command β)) :
    ∀ {d : Driver β}, d.Sound →
      (d.after commands).engine.snapshotsOf k =
          d.engine.snapshotsOf k ++ ofStream k (d.gather snapshotAt? commands) ∧
        (d.after commands).engine.outcomesOf k =
          d.engine.outcomesOf k ++ ofStream k (d.gather outcomeAt? commands) := by
  induction commands with
  | nil => exact fun _ => ⟨(List.append_nil _).symm, (List.append_nil _).symm⟩
  | cons command rest ih =>
      intro d hd
      obtain ⟨hsnapshots, houtcomes⟩ := step_gives hd command k
      obtain ⟨hsnapshots', houtcomes'⟩ := ih (hd.after [command])
      rw [after_cons, gather, gather, ofStream_append, ofStream_append, ← List.append_assoc,
        ← List.append_assoc, ← hsnapshots, ← houtcomes]
      exact ⟨hsnapshots', houtcomes'⟩

end QuadDaq.Driver

import Mathlib.Algebra.Order.Floor.Div
import QuadDaq.Board.ReadyWait

/-!
# Waits for the ready line

**A wait tells of the line what its last check found** (`waits_truthfully`). What can be observed
of a wait are its checks, its looks at the clock and its sleeps; `Course` says in which order they
come and how the wait ends, and `run` does exactly that (`run_eq_some_iff`). Nothing comes after a
check that finds the line raised, and after a sleep there is a check.

A wait is over in the first round in which the line is raised or the time is up. Nothing else ends
it: with a line that stays low and a clock that stands still it goes on, whatever the bound. If
every sleep takes some time, the clock ends it (`Clock.exists_course`).
-/

namespace QuadDaq.Board.ReadyWait

/-- Number of checks that a wait has made. -/
def Verdict.checks : Verdict → Nat
  | ready n | timedOut n => n

/-- The clock as a wait reads it: at its start, and after its checks, each time with one more sleep
behind it. It may move at any time, and in every sleep it moves by at least the interval. -/
structure Clock (interval : Duration) where
  start : Duration
  reading : Nat → Duration
  start_le : start ≤ reading 0
  slept : ∀ sleeps, reading sleeps + interval ≤ reading (sleeps + 1)

/-- What a wait does. -/
inductive Act
  /-- Checks the line and finds it raised or not. -/
  | check (raised : Bool)
  /-- Looks at the clock. -/
  | look (now : Duration)
  | sleep

/-- What a check found. -/
def Act.found? : Act → Option Bool
  | check raised => some raised
  | look _ | sleep => none

/-- What a wait does after so many checks, and how it ends. -/
inductive Course (ready : Nat → Bool) (now : Nat → Duration) (deadline : Duration) :
    Nat → List Act → Verdict → Prop
  /-- The line is raised. -/
  | raised {checks : Nat} (hready : ready checks = true) :
      Course ready now deadline checks [.check true] (.ready (checks + 1))
  /-- The line is not raised, and time is up. -/
  | due {checks : Nat} (hready : ready checks = false) (hdue : deadline ≤ now checks) :
      Course ready now deadline checks [.check false, .look (now checks)] (.timedOut (checks + 1))
  /-- The line is not raised, and there is time left. -/
  | slept {checks : Nat} {acts : List Act} {v : Verdict} (hready : ready checks = false)
      (hearly : now checks < deadline) (rest : Course ready now deadline (checks + 1) acts v) :
      Course ready now deadline checks (.check false :: .look (now checks) :: .sleep :: acts) v

section

variable {ready : Nat → Bool} {now : Nat → Duration} {deadline : Duration} {bound checks : Nat}
  {acts : List Act} {v : Verdict}

/-! ### The loop and its courses -/

theorem Course.lt_checks (h : Course ready now deadline checks acts v) : checks < v.checks := by
  induction h with
  | raised _ => exact Nat.lt_succ_self _
  | due _ _ => exact Nat.lt_succ_self _
  | slept _ _ _ ih => exact Nat.lt_of_succ_lt ih

theorem course_of_run (h : run ready now deadline bound checks = some v) :
    v.checks ≤ checks + bound ∧ ∃ acts, Course ready now deadline checks acts v := by
  induction bound generalizing checks with
  | zero => cases h
  | succ bound ih =>
      rw [run] at h
      split at h
      · next hready =>
          cases h
          exact ⟨Nat.add_le_add_left (Nat.succ_pos bound) checks, _, .raised hready⟩
      have hready : ready checks = false := Bool.eq_false_of_not_eq_true ‹_›
      split at h
      · next hdue =>
          cases h
          exact ⟨Nat.add_le_add_left (Nat.succ_pos bound) checks, _, .due hready hdue⟩
      · next hearly =>
          obtain ⟨hle, acts, hrest⟩ := ih h
          exact ⟨by omega, _, .slept hready (Nat.lt_of_not_le hearly) hrest⟩

theorem Course.run_eq (h : Course ready now deadline checks acts v)
    (hbound : v.checks ≤ checks + bound) : run ready now deadline bound checks = some v := by
  obtain ⟨bound, rfl⟩ : ∃ b, bound = b + 1 :=
    Nat.exists_eq_succ_of_ne_zero fun hzero => by have := h.lt_checks; omega
  induction h generalizing bound with
  | raised hready => rw [run, if_pos hready]
  | due hready hdue => rw [run, if_neg (by simp [hready]), if_pos hdue]
  | slept hready hearly rest ih =>
      rw [run, if_neg (by simp [hready]), if_neg (Nat.not_le.mpr hearly)]
      have hlt := rest.lt_checks
      obtain ⟨bound, rfl⟩ : ∃ b, bound = b + 1 := Nat.exists_eq_succ_of_ne_zero (by omega)
      exact ih bound (by omega)

/-- The loop runs along a course, within any bound that its checks do not exceed. -/
theorem run_eq_some_iff :
    run ready now deadline bound checks = some v ↔
      v.checks ≤ checks + bound ∧ ∃ acts, Course ready now deadline checks acts v :=
  ⟨course_of_run, fun ⟨hbound, _, h⟩ => h.run_eq hbound⟩

/-- A wait that comes to a round in which the line is raised or the time is up ends there, if not
before. -/
theorem exists_course {rounds : Nat}
    (h : ready (checks + rounds) = true ∨ deadline ≤ now (checks + rounds)) :
    ∃ acts v, Course ready now deadline checks acts v ∧ v.checks ≤ checks + rounds + 1 := by
  induction rounds generalizing checks with
  | zero =>
      cases hready : ready checks with
      | true => exact ⟨_, _, .raised hready, Nat.le_refl _⟩
      | false =>
          have hdue : deadline ≤ now checks := h.resolve_left (by simp [hready])
          exact ⟨_, _, .due hready hdue, Nat.le_refl _⟩
  | succ rounds ih =>
      cases hready : ready checks with
      | true => exact ⟨_, _, .raised hready, Nat.succ_le_succ (Nat.le_add_right _ _)⟩
      | false =>
          by_cases hdue : deadline ≤ now checks
          · exact ⟨_, _, .due hready hdue, Nat.succ_le_succ (Nat.le_add_right _ _)⟩
          · rw [← Nat.add_assoc, Nat.add_right_comm] at h
            obtain ⟨acts, v, hrest, hle⟩ := ih h
            exact ⟨_, v, .slept hready (Nat.lt_of_not_le hdue) hrest, by omega⟩

/-! ### What is told of a course -/

namespace Course

theorem begins (h : Course ready now deadline checks acts v) :
    ∃ raised rest, acts = .check raised :: rest := by
  cases h <;> exact ⟨_, _, rfl⟩

/-- The checks find what the line shows, one after the other. -/
theorem found (h : Course ready now deadline checks acts v) :
    acts.filterMap Act.found? = (List.range' checks (v.checks - checks)).map ready := by
  induction h with
  | raised hready => simp [Act.found?, Verdict.checks, hready]
  | due hready _ => simp [Act.found?, Verdict.checks, hready]
  | @slept checks acts v hready _ rest ih =>
      have hlt := rest.lt_checks
      have hsplit : v.checks - checks = v.checks - (checks + 1) + 1 := by omega
      rw [hsplit, List.range'_succ, List.map_cons, hready, ← ih]
      rfl

theorem ready_iff (h : Course ready now deadline checks acts v) :
    (∃ n, v = .ready n) ↔ .check true ∈ acts := by
  induction h with
  | raised _ => simp
  | due _ _ => simp
  | slept _ _ _ ih => simpa using ih

theorem timedOut (h : Course ready now deadline checks acts v) {n : Nat} (hv : v = .timedOut n) :
    deadline ≤ now (n - 1) ∧ ∃ before, acts = before ++ [.check false, .look (now (n - 1))] := by
  induction h with
  | raised _ => cases hv
  | due _ hdue =>
      cases hv
      exact ⟨hdue, [], rfl⟩
  | slept _ _ _ ih =>
      obtain ⟨hdue, before, rfl⟩ := ih hv
      exact ⟨hdue, _ :: _ :: _ :: before, rfl⟩

/-- A wait does not end by itself. -/
theorem stops (h : Course ready now deadline checks acts v) :
    ∃ n, ready n = true ∨ deadline ≤ now n := by
  induction h with
  | raised hready => exact ⟨_, .inl hready⟩
  | due _ hdue => exact ⟨_, .inr hdue⟩
  | slept _ _ _ ih => exact ih

theorem verdict_unique (h : Course ready now deadline checks acts v) {acts' : List Act}
    {v' : Verdict} (h' : Course ready now deadline checks acts' v') : v = v' := by
  have hrun : run ready now deadline (v.checks + v'.checks) checks = some v :=
    h.run_eq (by omega)
  have hrun' : run ready now deadline (v.checks + v'.checks) checks = some v' :=
    h'.run_eq (by omega)
  exact Option.some.inj (hrun.symm.trans hrun')

/-- Nothing comes after a check that finds the line raised, and after a sleep there is a check. -/
theorem next (h : Course ready now deadline checks acts v) {before after : List Act} {act : Act}
    (hacts : acts = before ++ act :: after) :
    (act = .check true → after = []) ∧
    (act = .sleep → ∃ raised rest, after = .check raised :: rest) := by
  induction h generalizing before with
  | raised _ =>
      obtain ⟨rfl, hact⟩ | ⟨_, -, hnil⟩ := List.cons_eq_append_iff.mp hacts
      · cases hact
        exact ⟨fun _ => rfl, nofun⟩
      · simp at hnil
  | due _ _ =>
      rcases before with _ | ⟨_, _ | ⟨_, before⟩⟩
      · cases hacts
        exact ⟨nofun, nofun⟩
      · cases hacts
        exact ⟨nofun, nofun⟩
      · simp at hacts
  | slept _ _ rest ih =>
      rcases before with _ | ⟨_, _ | ⟨_, _ | ⟨_, before⟩⟩⟩
      · cases hacts
        exact ⟨nofun, nofun⟩
      · cases hacts
        exact ⟨nofun, nofun⟩
      · cases hacts
        exact ⟨nofun, fun _ => rest.begins⟩
      · simp only [List.cons_append, List.cons.injEq] at hacts
        exact ih hacts.2.2.2

end Course

end

/-! ### Clocks -/

theorem Clock.le_reading {interval : Duration} (clock : Clock interval) (sleeps : Nat) :
    clock.start + sleeps * interval ≤ clock.reading sleeps := by
  induction sleeps with
  | zero => simpa using clock.start_le
  | succ sleeps ih =>
      calc clock.start + (sleeps + 1) * interval
        _ = clock.start + sleeps * interval + interval := by rw [Nat.succ_mul, Nat.add_assoc]
        _ ≤ clock.reading sleeps + interval := Nat.add_le_add_right ih interval
        _ ≤ clock.reading (sleeps + 1) := clock.slept sleeps

/-- If sleeps take some time, a wait ends with the check after the sleeps that fill its time, or
before. -/
theorem Clock.exists_course {interval : Duration} (clock : Clock interval)
    (hinterval : 0 < interval) (ready : Nat → Bool) (timeout : Duration) :
    ∃ acts v, Course ready clock.reading (clock.start + timeout) 0 acts v ∧
      v.checks ≤ timeout ⌈/⌉ interval + 1 := by
  have hfill : timeout ≤ timeout ⌈/⌉ interval * interval := by
    rw [Nat.mul_comm]
    exact (ceilDiv_le_iff_le_mul hinterval).mp (Nat.le_refl _)
  have hdue : clock.start + timeout ≤ clock.reading (timeout ⌈/⌉ interval) :=
    (Nat.add_le_add_left hfill clock.start).trans (clock.le_reading _)
  rw [← Nat.zero_add (timeout ⌈/⌉ interval)] at hdue ⊢
  exact ReadyWait.exists_course (.inr hdue)

/-- The clock of a wait whose sleeps take exactly this long, and whose checks take no time. -/
def Clock.even (interval : Duration) : Clock interval where
  start := 0
  reading sleeps := sleeps * interval
  start_le := Nat.zero_le _
  slept sleeps := Nat.le_of_eq (Nat.succ_mul sleeps interval).symm

theorem enough_eq (timeout interval : Duration) :
    enough timeout interval = timeout ⌈/⌉ interval + 1 := by
  rw [enough, Nat.ceilDiv_eq_add_pred_div]

/-- A wait has a verdict if its sleeps take exactly the interval. -/
theorem evenly_isSome (ready : Nat → Bool) (timeout interval : Duration) :
    (evenly ready timeout interval).isSome = true := by
  have hends : ∀ sleep : Duration, 0 < sleep →
      (run ready (fun sleeps => sleeps * sleep) timeout (enough timeout sleep) 0).isSome = true := by
    intro sleep hsleep
    obtain ⟨acts, v, hcourse, hle⟩ := (Clock.even sleep).exists_course hsleep ready timeout
    rw [← enough_eq, ← Nat.zero_add (enough timeout sleep)] at hle
    have hrun := hcourse.run_eq hle
    rw [Clock.even, Nat.zero_add] at hrun
    rw [hrun, Option.isSome_some]
  rw [evenly]
  split
  · exact hends _ (by decide)
  · next hinterval => exact hends _ (Nat.pos_of_ne_zero hinterval)

/-- **A wait ends by the clock at the latest, and tells what its last check found.** The loop runs
along a course. It ends with a raised line exactly if some check has found it raised, which is the
last one then; it ends without only if its last check has not and the clock shows the deadline
afterwards. It begins with a check, and each sleep is followed by one more. It ends if the line is
raised or the time is up in some round, which is so if sleeps take some time, and its checks are
then no more than the sleeps that fill the time, and one. -/
theorem waits_truthfully (ready : Nat → Bool) {interval : Duration} (clock : Clock interval)
    (timeout : Duration) :
    (∀ bound v, run ready clock.reading (clock.start + timeout) bound 0 = some v ↔
      v.checks ≤ bound ∧ ∃ acts, Course ready clock.reading (clock.start + timeout) 0 acts v) ∧
    (∀ acts v, Course ready clock.reading (clock.start + timeout) 0 acts v →
      ((∃ n, v = .ready n) ↔ .check true ∈ acts) ∧
      (∀ n, v = .timedOut n → clock.start + timeout ≤ clock.reading (n - 1) ∧
        ∃ before, acts = before ++ [.check false, .look (clock.reading (n - 1))]) ∧
      (∃ raised rest, acts = .check raised :: rest) ∧
      (∀ before after, acts = before ++ .check true :: after → after = []) ∧
      (∀ before after, acts = before ++ .sleep :: after →
        ∃ raised rest, after = .check raised :: rest) ∧
      acts.filterMap Act.found? = (List.range v.checks).map ready ∧
      (0 < interval → v.checks ≤ timeout ⌈/⌉ interval + 1)) ∧
    ((∃ bound v, run ready clock.reading (clock.start + timeout) bound 0 = some v) ↔
      ∃ checks, ready checks = true ∨ clock.start + timeout ≤ clock.reading checks) ∧
    (0 < interval → ∃ v, run ready clock.reading (clock.start + timeout)
      (timeout ⌈/⌉ interval + 1) 0 = some v) := by
  refine ⟨fun bound v => ?_, fun acts v h => ⟨h.ready_iff, fun n hv => h.timedOut hv, h.begins,
    fun before after hacts => (h.next hacts).1 rfl, fun before after hacts => (h.next hacts).2 rfl,
    ?_, fun hinterval => ?_⟩, ⟨?_, ?_⟩, fun hinterval => ?_⟩
  · rw [run_eq_some_iff, Nat.zero_add]
  · rw [h.found, List.range_eq_range', Nat.sub_zero]
  · obtain ⟨_, v', hcourse, hle⟩ := clock.exists_course hinterval ready timeout
    rwa [h.verdict_unique hcourse]
  · rintro ⟨bound, v, hrun⟩
    obtain ⟨-, acts, h⟩ := course_of_run hrun
    exact h.stops
  · rintro ⟨checks, hstops⟩
    rw [← Nat.zero_add checks] at hstops
    obtain ⟨acts, v, h, -⟩ := exists_course hstops
    exact ⟨v.checks, v, h.run_eq (Nat.le_add_left _ _)⟩
  · obtain ⟨acts, v, h, hle⟩ := clock.exists_course hinterval ready timeout
    exact ⟨v, h.run_eq (by rwa [Nat.zero_add])⟩

end QuadDaq.Board.ReadyWait

import QuadDaq.Button

/-!
# Debouncing

**A level is accepted once a block of equal polls was long enough**, and polls that make no
such block have no effect (`accepts_settled_levels`). The reference is a window over the whole
history, here with the newest poll first: `settledLevel` looks for the latest block of polls that
agree.

A debouncer remembers much less than the history, namely its unfinished block. That block is the
longest one at the end of the history without a poll at the accepted level, and it is always too
short (`Follows`); so its length never reaches the limit of the counter either. What is left of a
block that came to nothing is a candidate without polls, which no later poll asks for (`Agrees`).
-/

namespace QuadDaq.Debouncer

/-! ### The reference -/

/-- The level of the latest `n` polls in a row that agree, or released if no `n` polls ever did.
The newest poll comes first. -/
def settledLevel (n : Nat) : List Bool → Bool
  | [] => false
  | level :: older =>
    if List.replicate n level <+: level :: older then level else settledLevel n older

/-- How often the settled level changed, starting from released. -/
def changes (n : Nat) : List Bool → Nat
  | [] => 0
  | level :: older =>
    changes n older + if settledLevel n (level :: older) = settledLevel n older then 0 else 1

/-! ### Sequences of polls -/

/-- The debouncer after several polls. -/
def after (d : Debouncer) (polls : List Bool) : Debouncer := (d.pollAll 0 polls).1

theorem pollAll_fst (d : Debouncer) (start : Nat) (polls : List Bool) :
    (d.pollAll start polls).1 = d.after polls := by
  suffices h : ∀ i j, (d.pollAll i polls).1 = (d.pollAll j polls).1 from h start 0
  induction polls generalizing d with
  | nil => exact fun _ _ => rfl
  | cons level rest ih => exact fun i j => ih (d.poll level).1 (i + 1) (j + 1)

@[simp] theorem after_nil (d : Debouncer) : d.after [] = d := rfl

@[simp] theorem after_cons (d : Debouncer) (level : Bool) (rest : List Bool) :
    d.after (level :: rest) = (d.poll level).1.after rest :=
  pollAll_fst (d.poll level).1 1 rest

theorem after_append (d : Debouncer) (polls more : List Bool) :
    d.after (polls ++ more) = (d.after polls).after more := by
  induction polls generalizing d with
  | nil => rfl
  | cons level rest ih => rw [List.cons_append, after_cons, after_cons, ih]

theorem pollAll_cons (d : Debouncer) (start : Nat) (level : Bool) (rest : List Bool) :
    (d.pollAll start (level :: rest)).2 =
      ((d.poll level).2.map (Prod.mk start)).toList
        ++ ((d.poll level).1.pollAll (start + 1) rest).2 :=
  rfl

/-- A transition belongs to the poll that brought it. -/
theorem mem_pollAll {d : Debouncer} {start i : Nat} {polls : List Bool} {t : Transition} :
    (i, t) ∈ (d.pollAll start polls).2 ↔
      ∃ before level later, polls = before ++ level :: later ∧ start + before.length = i ∧
        ((d.after before).poll level).2 = some t := by
  induction polls generalizing d start with
  | nil => simp [pollAll]
  | cons first rest ih =>
      rw [pollAll_cons, List.mem_append, ih]
      constructor
      · rintro (hfirst | ⟨before, level, later, rfl, rfl, ht⟩)
        · obtain ⟨t', ht, heq⟩ := Option.map_eq_some_iff.mp (Option.mem_toList.mp hfirst)
          cases heq
          exact ⟨[], first, rest, rfl, rfl, ht⟩
        · refine ⟨first :: before, level, later, rfl, ?_, by rw [after_cons]; exact ht⟩
          rw [List.length_cons]
          omega
      · rintro ⟨before, level, later, heq, rfl, ht⟩
        cases before with
        | nil =>
            cases heq
            left
            rw [after_nil] at ht
            simp [ht]
        | cons _ before =>
            cases heq
            right
            rw [after_cons] at ht
            refine ⟨before, level, later, rfl, ?_, ht⟩
            rw [List.length_cons]
            omega

@[simp] theorem counted_needed (d : Debouncer) (level : Bool) :
    (d.counted level).needed = d.needed := by
  unfold counted
  split <;> rfl

@[simp] theorem counted_pressed (d : Debouncer) (level : Bool) :
    (d.counted level).pressed = d.pressed := by
  unfold counted
  split <;> rfl

@[simp] theorem counted_counter (d : Debouncer) (level : Bool) :
    (d.counted level).counter = d.counter := by
  unfold counted
  split <;> rfl

theorem poll_pressed (d : Debouncer) : d.poll d.pressed = ({ d with run := 0 }, none) := if_pos rfl

theorem poll_not_pressed (d : Debouncer) :
    d.poll (!d.pressed) =
      if (d.counted (!d.pressed)).run < d.needed then (d.counted (!d.pressed), none)
      else
        ({ d.counted (!d.pressed) with
            pressed := !d.pressed, run := 0, counter := d.counter + 1 },
          some ⟨!d.pressed, d.counter + 1⟩) := by
  have hother : ¬(!d.pressed) = d.pressed := by simp
  rw [poll, if_neg hother]
  simp only [counted_needed, counted_counter]

/-- A poll leaves the accepted level alone, or accepts the other one with the next number. -/
theorem poll_cases (b : Debouncer) (level : Bool) :
    ((b.poll level).2 = none ∧ (b.poll level).1.pressed = b.pressed ∧
      (b.poll level).1.counter = b.counter) ∨
    ((b.poll level).2 = some ⟨!b.pressed, b.counter + 1⟩ ∧
      (b.poll level).1.pressed = (!b.pressed) ∧ (b.poll level).1.counter = b.counter + 1) := by
  by_cases hsame : level = b.pressed
  · rw [hsame, poll_pressed]
    exact .inl ⟨rfl, rfl, rfl⟩
  · rw [Bool.eq_not.mpr hsame, poll_not_pressed]
    split
    · exact .inl ⟨rfl, b.counted_pressed _, b.counted_counter _⟩
    · exact .inr ⟨rfl, rfl, rfl⟩

/-- Transitions are numbered one after the other. -/
theorem pollAll_counters (d : Debouncer) (start : Nat) (polls : List Bool) :
    ∃ n, (d.after polls).counter = d.counter + n ∧
      (d.pollAll start polls).2.map (fun p => p.2.counter) = List.range' (d.counter + 1) n := by
  induction polls generalizing d start with
  | nil => exact ⟨0, rfl, rfl⟩
  | cons level rest ih =>
      obtain ⟨n, hcounter, hnumbers⟩ := ih (d.poll level).1 (start + 1)
      rw [after_cons, pollAll_cons, List.map_append, hnumbers, hcounter]
      rcases d.poll_cases level with ⟨hnone, -, hsame⟩ | ⟨hsome, -, hnext⟩
      · exact ⟨n, by rw [hsame], by rw [hnone, hsame]; rfl⟩
      · refine ⟨n + 1, by omega, ?_⟩
        rw [hsome, hnext, List.range'_succ]
        rfl

/-! ### What a debouncer remembers -/

theorem replicate_isPrefix_iff {n : Nat} {a : Bool} {l : List Bool} :
    List.replicate n a <+: l ↔ n ≤ (l.takeWhile (· == a)).length := by
  induction l generalizing n with
  | nil => cases n <;> simp
  | cons b l ih =>
      cases n with
      | zero => simp
      | succ n =>
          rw [List.replicate_succ, List.cons_prefix_cons, ih, List.takeWhile_cons]
          by_cases hab : a = b
          · simp [hab]
          · simp [hab, Ne.symm hab]

/-- The debouncer is as it should be after a history, the newest poll first. -/
structure Follows (n : Nat) (d : Debouncer) (history : List Bool) : Prop where
  needed : d.needed = n
  pressed : d.pressed = settledLevel n history
  /-- The unfinished block is what follows the latest poll at the accepted level. -/
  run : d.run = (history.takeWhile (· == !d.pressed)).length
  run_lt : d.run < n
  candidate : d.run = 0 ∨ d.candidate = !d.pressed
  counter : d.counter = changes n history

namespace Follows

variable {n : Nat} {d : Debouncer} {history : List Bool}

theorem ofCount (k : Nat) : (ofCount k).Follows (max k 1) [] := by
  have hpos : 0 < max k 1 := by omega
  exact ⟨rfl, rfl, rfl, hpos, .inl rfl, rfl⟩

/-- An unfinished block is counted in full, because the limit lies behind its end. -/
theorem counted_eq (h : d.Follows n history) (hn : n ≤ longestRun) :
    d.counted (!d.pressed) = { d with candidate := !d.pressed, run := d.run + 1 } := by
  have hroom : min (d.run + 1) longestRun = d.run + 1 :=
    Nat.min_eq_left (Nat.le_trans h.run_lt hn)
  unfold counted
  by_cases hrun : d.run = 0
  · rw [if_neg fun hcounts => Nat.ne_of_gt hcounts.2 hrun, hrun]
  · have hcandidate := h.candidate.resolve_left hrun
    rw [if_pos ⟨hcandidate.symm, Nat.pos_of_ne_zero hrun⟩, hroom, ← hcandidate]

/-- A poll at the other level completes a block exactly if it is the last one that is needed. -/
theorem held_iff (h : d.Follows n history) :
    List.replicate n (!d.pressed) <+: (!d.pressed) :: history ↔ n ≤ d.run + 1 := by
  rw [replicate_isPrefix_iff, List.takeWhile_cons, if_pos (beq_self_eq_true _), List.length_cons,
    ← h.run]

/-- What a poll brings is said by the latest polls alone. -/
theorem poll_snd (h : d.Follows n history) (hn : n ≤ longestRun) (level : Bool) (t : Transition) :
    (d.poll level).2 = some t ↔
      List.replicate n t.pressed <+: level :: history ∧ t.pressed ≠ d.pressed ∧
        t.counter = d.counter + 1 := by
  have hpos : 0 < n := Nat.zero_lt_of_lt h.run_lt
  -- A block that ends with the poll is at the level of the poll.
  have hlevel : List.replicate n t.pressed <+: level :: history → t.pressed = level := by
    obtain ⟨m, rfl⟩ := Nat.exists_eq_succ_of_ne_zero (Nat.ne_of_gt hpos)
    exact fun hheld => (List.cons_prefix_cons.mp hheld).1
  by_cases hsame : level = d.pressed
  · rw [hsame, poll_pressed]
    refine iff_of_false (by simp) fun ⟨hheld, hne, _⟩ => hne ?_
    rw [hsame] at hlevel
    exact hlevel hheld
  · obtain rfl : level = !d.pressed := Bool.eq_not.mpr hsame
    rw [poll_not_pressed, h.counted_eq hn, h.needed]
    by_cases hmore : d.run + 1 < n
    · rw [if_pos hmore]
      refine iff_of_false (by simp) fun ⟨hheld, _, _⟩ => ?_
      rw [hlevel hheld, h.held_iff] at hheld
      omega
    · rw [if_neg hmore, Option.some.injEq]
      constructor
      · rintro rfl
        exact ⟨h.held_iff.mpr (Nat.le_of_not_lt hmore), hsame, rfl⟩
      · rintro ⟨hheld, -, hcounter⟩
        rw [← hlevel hheld, ← hcounter]

/-- One more poll. -/
theorem poll (h : d.Follows n history) (hn : n ≤ longestRun) (level : Bool) :
    (d.poll level).1.Follows n (level :: history) := by
  have hsettled : settledLevel n (level :: history) =
      if List.replicate n level <+: level :: history then level else d.pressed := by
    rw [settledLevel, h.pressed]
  have hchanges : changes n (level :: history) =
      d.counter + if settledLevel n (level :: history) = d.pressed then 0 else 1 := by
    rw [changes, h.counter, h.pressed]
  have hpos : 0 < n := Nat.zero_lt_of_lt h.run_lt
  by_cases hsame : level = d.pressed
  · subst hsame
    have hstays : settledLevel n (d.pressed :: history) = d.pressed := by rw [hsettled, ite_self]
    rw [poll_pressed]
    exact ⟨h.needed, hstays.symm, by simp, hpos, .inl rfl, by rw [hchanges, hstays]; simp⟩
  · obtain rfl : level = !d.pressed := Bool.eq_not.mpr hsame
    rw [poll_not_pressed, h.counted_eq hn, h.needed]
    by_cases hmore : d.run + 1 < n
    · have hstays : settledLevel n ((!d.pressed) :: history) = d.pressed := by
        rw [hsettled, if_neg (by rw [h.held_iff]; omega)]
      rw [if_pos hmore]
      exact ⟨rfl, hstays.symm, by simp [h.run], hmore, .inr rfl, by rw [hchanges, hstays]; simp⟩
    · have hflips : settledLevel n ((!d.pressed) :: history) = !d.pressed := by
        rw [hsettled, if_pos (h.held_iff.mpr (Nat.le_of_not_lt hmore))]
      rw [if_neg hmore]
      exact ⟨rfl, hflips.symm, by simp, hpos, .inl rfl, by rw [hchanges, hflips]; simp⟩

/-- Several more polls. -/
theorem after (h : d.Follows n history) (hn : n ≤ longestRun) (polls : List Bool) :
    (d.after polls).Follows n (polls.reverse ++ history) := by
  induction polls generalizing d history with
  | nil => exact h
  | cons level rest ih =>
      rw [after_cons, List.reverse_cons, List.append_assoc]
      exact ih (h.poll hn level)

/-- Polls that complete no block at the other level bring nothing. -/
theorem unmoved (h : d.Follows n history) (hn : n ≤ longestRun) {glitches : List Bool}
    (hshort : ∀ m, m <+: glitches → ¬List.replicate n (!d.pressed) <+: m.reverse ++ history)
    (start : Nat) :
    (d.pollAll start glitches).2 = [] ∧ (d.after glitches).pressed = d.pressed ∧
      (d.after glitches).counter = d.counter := by
  induction glitches generalizing d history start with
  | nil => exact ⟨rfl, rfl, rfl⟩
  | cons level rest ih =>
      have hnone : (d.poll level).2 = none := by
        refine Option.eq_none_iff_forall_ne_some.mpr fun t ht => ?_
        obtain ⟨hheld, hne, -⟩ := (h.poll_snd hn level t).mp ht
        rw [Bool.eq_not.mpr hne] at hheld
        exact hshort [level] ⟨rest, rfl⟩ hheld
      obtain ⟨hpressed, hcounter⟩ : (d.poll level).1.pressed = d.pressed ∧
          (d.poll level).1.counter = d.counter := by
        rcases d.poll_cases level with ⟨-, hsame⟩ | ⟨hsome, -⟩
        · exact hsame
        · rw [hnone] at hsome
          cases hsome
      have hshort' : ∀ m, m <+: rest →
          ¬List.replicate n (!(d.poll level).1.pressed) <+: m.reverse ++ level :: history := by
        intro m hm
        have := hshort (level :: m) (List.cons_prefix_cons.mpr ⟨rfl, hm⟩)
        rw [hpressed]
        simpa using this
      obtain ⟨hrest, hpressed', hcounter'⟩ := ih (h.poll hn level) hshort' (start + 1)
      rw [after_cons]
      exact ⟨by rw [pollAll_cons, hnone, hrest]; rfl, hpressed'.trans hpressed,
        hcounter'.trans hcounter⟩

end Follows

/-! ### What a debouncer forgets -/

/-- The debouncers differ at most in a candidate that has no polls. -/
structure Agrees (d d' : Debouncer) : Prop where
  needed : d.needed = d'.needed
  pressed : d.pressed = d'.pressed
  run : d.run = d'.run
  candidate : d.run = 0 ∨ d.candidate = d'.candidate
  counter : d.counter = d'.counter

namespace Agrees

variable {d d' : Debouncer}

theorem counted (h : d.Agrees d') (level : Bool) : (d.counted level).Agrees (d'.counted level) := by
  unfold Debouncer.counted
  rw [← h.run]
  rcases h.candidate with hrun | hcandidate
  · rw [if_neg fun hcounts => Nat.ne_of_gt hcounts.2 hrun,
      if_neg fun hcounts => Nat.ne_of_gt hcounts.2 hrun]
    exact ⟨h.needed, h.pressed, rfl, .inr rfl, h.counter⟩
  · rw [← hcandidate]
    split
    · exact ⟨h.needed, h.pressed, rfl, .inr rfl, h.counter⟩
    · exact ⟨h.needed, h.pressed, rfl, .inr rfl, h.counter⟩

theorem poll (h : d.Agrees d') (level : Bool) :
    (d.poll level).2 = (d'.poll level).2 ∧ (d.poll level).1.Agrees (d'.poll level).1 := by
  have hcounted := h.counted level
  unfold Debouncer.poll
  rw [← h.pressed]
  by_cases hsame : level = d.pressed
  · rw [if_pos hsame, if_pos hsame]
    exact ⟨rfl, h.needed, rfl, rfl, .inl rfl, h.counter⟩
  · rw [if_neg hsame, if_neg hsame]
    simp only [← hcounted.run, ← hcounted.needed, ← hcounted.counter]
    split
    · exact ⟨rfl, hcounted⟩
    · exact ⟨rfl, rfl, rfl, rfl, .inl rfl, rfl⟩

/-- No polls tell the two apart. -/
theorem pollAll (h : d.Agrees d') (start : Nat) (polls : List Bool) :
    (d.pollAll start polls).2 = (d'.pollAll start polls).2 := by
  induction polls generalizing d d' start with
  | nil => rfl
  | cons level rest ih =>
      obtain ⟨hfirst, hagrees⟩ := h.poll level
      rw [pollAll_cons, pollAll_cons, hfirst, ih hagrees]

end Agrees

/-- **A debouncer accepts the level of the latest block of equal polls that is long enough**, and
its transitions are the changes of that level. Polls that make no such block leave no trace once
the level is back. -/
theorem accepts_settled_levels (k : UInt8) (polls : List Bool) :
    let d : Debouncer := ofCount k.toNat
    let n := max k.toNat 1
    (∀ i t, (i, t) ∈ (d.pollAll 0 polls).2 ↔
      ∃ before level later, polls = before ++ level :: later ∧ before.length = i ∧
        List.replicate n t.pressed <:+ before ++ [level] ∧ t.pressed ≠ (d.after before).pressed ∧
        t.counter = (d.after before).counter + 1) ∧
    (d.after polls).pressed = settledLevel n polls.reverse ∧
    (d.after polls).counter = changes n polls.reverse ∧
    (d.pollAll 0 polls).2.map (fun p => p.2.counter) = List.range' 1 (d.after polls).counter ∧
    ∀ glitches, (∀ m, m <+: glitches →
        ¬List.replicate n (!(d.after polls).pressed) <:+ polls ++ m) →
      ((d.after polls).pollAll polls.length glitches).2 = [] ∧
      (d.after (polls ++ glitches)).pressed = (d.after polls).pressed ∧
      (d.after (polls ++ glitches)).counter = (d.after polls).counter ∧
      ∀ start later,
        ((d.after (polls ++ glitches)).pollAll start ((d.after polls).pressed :: later)).2 =
          ((d.after polls).pollAll start ((d.after polls).pressed :: later)).2 := by
  intro d n
  have hn : n ≤ longestRun := by
    have := k.toNat_lt
    change max k.toNat 1 ≤ 255
    omega
  have hfollows : ∀ polls, (d.after polls).Follows n polls.reverse := fun polls => by
    simpa using (Follows.ofCount k.toNat).after hn polls
  have hsuffix : ∀ (level : Bool) (polls : List Bool),
      List.replicate n level <:+ polls ↔ List.replicate n level <+: polls.reverse := by
    intro level polls
    rw [← List.reverse_prefix, List.reverse_replicate]
  refine ⟨fun i t => ?_, (hfollows polls).pressed, (hfollows polls).counter, ?_, ?_⟩
  · rw [mem_pollAll]
    refine exists_congr fun before => exists_congr fun level => exists_congr fun later => ?_
    rw [(hfollows before).poll_snd hn, hsuffix, List.reverse_append, Nat.zero_add]
    rfl
  · obtain ⟨count, hcounter, hnumbers⟩ := d.pollAll_counters 0 polls
    rw [hnumbers, hcounter]
    exact congrArg (List.range' 1) (Nat.zero_add count).symm
  · intro glitches hshort
    have hshort' : ∀ m, m <+: glitches →
        ¬List.replicate n (!(d.after polls).pressed) <+: m.reverse ++ polls.reverse := by
      intro m hm
      rw [← List.reverse_append, ← hsuffix]
      exact hshort m hm
    obtain ⟨hnone, hpressed, hcounter⟩ := (hfollows polls).unmoved hn hshort' polls.length
    rw [← after_append] at hpressed hcounter
    refine ⟨hnone, hpressed, hcounter, fun start later => ?_⟩
    -- A poll at the accepted level ends the block, whatever it was.
    have hneeded := (hfollows (polls ++ glitches)).needed.trans (hfollows polls).needed.symm
    rw [pollAll_cons, pollAll_cons, ← hpressed, poll_pressed, hpressed, poll_pressed]
    refine congrArg _ (Agrees.pollAll ?_ _ _)
    exact ⟨hneeded, rfl, rfl, .inl rfl, hcounter⟩

end QuadDaq.Debouncer

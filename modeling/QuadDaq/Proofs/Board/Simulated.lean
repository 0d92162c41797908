import Mathlib.Data.List.Induction
import QuadDaq.Board.Simulated

/-!
# Histories of a simulated board

**Faults do not shift the signal** (`reads_follow_history`). How a read ends follows from what was
done to the board before: from the latest values of its switches, from the latest injection and
the reads since then, and from the number of rows so far. The reference looks all this up in the
history, of which the board keeps a few numbers only.

Only reads that get as far as the injected faults use one up (`readyReads`): the board measures
and is not stuck. So what is left of an injection is what it began with less those reads
(`failNext_eq`).
-/

namespace QuadDaq

/-- The row that a read delivers. -/
def ReadOutcome.row? : ReadOutcome → Option Row
  | .row raw => some raw
  | .fault _ | .crash => none

namespace Board.Simulated

/-- What can be done to a simulated board. -/
inductive Operation
  | read (timeout : Duration)
  | setMeasuring (on : Bool)
  | selectBridge (bridge : Bridge)
  | injectFaults (n : Nat)
  | setStuck (on : Bool)
  | setPressed (on : Bool)

/-- The board after an operation. -/
def perform (s : Simulated) : Operation → Simulated
  | .read timeout => (Board.read timeout s).1
  | .setMeasuring on => (Board.setMeasuring on s).1
  | .selectBridge bridge => (Board.selectBridge bridge s).1
  | .injectFaults n => s.injectFaults n
  | .setStuck on => s.setStuck on
  | .setPressed on => s.setPressed on

/-- The board after a sequence of operations. -/
def performAll (s : Simulated) (operations : List Operation) : Simulated :=
  operations.foldl perform s

/-- How an operation ends that is a read. -/
def outcome? (s : Simulated) : Operation → Option ReadOutcome
  | .read timeout => some (Board.read timeout s).2
  | _ => none

/-- How the reads among a sequence of operations end. -/
def outcomes (s : Simulated) : List Operation → List ReadOutcome
  | [] => []
  | op :: operations => (s.outcome? op).toList ++ (s.perform op).outcomes operations

/-- The rows that a sequence of operations reads. -/
def rows (s : Simulated) (operations : List Operation) : List Row :=
  (s.outcomes operations).filterMap ReadOutcome.row?

/-! ### The reference -/

namespace Operation

def isRead : Operation → Bool
  | read _ => true
  | _ => false

def measuring? : Operation → Option Bool
  | setMeasuring on => some on
  | _ => none

def bridge? : Operation → Option Bridge
  | selectBridge bridge => some bridge
  | _ => none

def stuck? : Operation → Option Bool
  | setStuck on => some on
  | _ => none

def injected? : Operation → Option Nat
  | injectFaults n => some n
  | _ => none

end Operation

/-- The value that was set last, or the initial one. -/
def latest {α : Type} (value? : Operation → Option α) (initial : α)
    (history : List Operation) : α :=
  (history.filterMap value?).getLast?.getD initial

/-- The board measures at the end of a history. -/
def measures (history : List Operation) : Bool := latest Operation.measuring? false history

/-- The board is stuck at the end of a history. -/
def sticks (history : List Operation) : Bool := latest Operation.stuck? false history

/-- The bridge that is selected at the end of a history. -/
def selected (history : List Operation) : Bridge := latest Operation.bridge? .off history

/-- The reads after a history that find the board measuring and not stuck. -/
def readyReads (history : List Operation) : List Operation → Nat
  | [] => 0
  | op :: later =>
    (if op.isRead && measures history && !sticks history then 1 else 0)
      + readyReads (history ++ [op]) later

/-- Of the faults that were injected last some are still due. -/
def FaultDue (history : List Operation) : Prop :=
  ∃ before n later, history = before ++ .injectFaults n :: later ∧
    (∀ op ∈ later, op.injected? = none) ∧ readyReads (before ++ [.injectFaults n]) later < n

/-! ### Single operations -/

/-- The four ways in which a read can end, and what each of them leaves behind. -/
theorem read_cases (s : Simulated) (timeout : Duration) :
    (s.measuring = false ∧ Board.read timeout s =
      ({ s with reads := s.reads + 1 }, .fault (.simulated "measurement disabled"))) ∨
    (s.measuring = true ∧ s.stuck = true ∧
      Board.read timeout s = ({ s with reads := s.reads + 1 }, .fault .timeout)) ∨
    (s.measuring = true ∧ s.stuck = false ∧ 0 < s.failNext ∧ Board.read timeout s =
      ({ s with reads := s.reads + 1, failNext := s.failNext - 1 },
        .fault (.simulated "injected read fault"))) ∨
    (s.measuring = true ∧ s.stuck = false ∧ s.failNext = 0 ∧ Board.read timeout s =
      ({ s with reads := s.reads + 1, index := s.index + 1 },
        .row (s.waveform.sample s.rate s.index s.bridge))) := by
  cases hm : s.measuring with
  | false => exact .inl ⟨rfl, by simp [Board.read, read, obstacle?, hm]⟩
  | true =>
      cases hs : s.stuck with
      | true => exact .inr (.inl ⟨rfl, rfl, by simp [Board.read, read, obstacle?, hm, hs]⟩)
      | false =>
          rcases Nat.eq_zero_or_pos s.failNext with hdue | hdue
          · exact .inr (.inr (.inr
              ⟨rfl, rfl, hdue, by simp [Board.read, read, obstacle?, hm, hs, hdue]⟩))
          · exact .inr (.inr (.inl
              ⟨rfl, rfl, hdue, by simp [Board.read, read, obstacle?, hm, hs, hdue]⟩))

/-- How a read ends, by what stands in its way. -/
theorem read_snd (s : Simulated) (timeout : Duration) :
    (∀ raw, (Board.read timeout s).2 = .row raw ↔
      (s.measuring = true ∧ s.stuck = false ∧ ¬0 < s.failNext) ∧
        raw = s.waveform.sample s.rate s.index s.bridge) ∧
    ((Board.read timeout s).2 = .fault (.simulated "injected read fault") ↔
      s.measuring = true ∧ s.stuck = false ∧ 0 < s.failNext) ∧
    ((Board.read timeout s).2 = .fault .timeout ↔ s.measuring = true ∧ s.stuck = true) ∧
    ((Board.read timeout s).2 = .fault (.simulated "measurement disabled") ↔
      s.measuring = false) := by
  rcases s.read_cases timeout with ⟨hm, h⟩ | ⟨hm, hs, h⟩ | ⟨hm, hs, hdue, h⟩ | ⟨hm, hs, hdue, h⟩
  · simp [h, hm]
  · simp [h, hm, hs]
  · simp [h, hm, hs, hdue]
  · simp [h, hm, hs, hdue, eq_comm]

theorem performAll_concat (s : Simulated) (history : List Operation) (op : Operation) :
    s.performAll (history ++ [op]) = (s.performAll history).perform op := by
  rw [performAll, List.foldl_append, performAll]
  rfl

theorem outcomes_concat (s : Simulated) (history : List Operation) (op : Operation) :
    s.outcomes (history ++ [op]) =
      s.outcomes history ++ ((s.performAll history).outcome? op).toList := by
  induction history generalizing s with
  | nil => simp [outcomes, performAll]
  | cons first rest ih =>
      rw [List.cons_append, outcomes, outcomes, ih, List.append_assoc]
      rfl

theorem rows_concat (s : Simulated) (history : List Operation) (op : Operation) :
    s.rows (history ++ [op]) =
      s.rows history ++ (((s.performAll history).outcome? op).bind ReadOutcome.row?).toList := by
  rw [rows, outcomes_concat, List.filterMap_append, rows]
  cases (s.performAll history).outcome? op with
  | none => rfl
  | some outcome => cases h : outcome.row? <;> simp [h]

theorem latest_concat {α : Type} (value? : Operation → Option α) (initial : α)
    (history : List Operation) (op : Operation) :
    latest value? initial (history ++ [op]) = (value? op).getD (latest value? initial history) := by
  rw [latest, List.filterMap_append]
  cases h : value? op with
  | none => simp [h, latest]
  | some a => simp [h]

theorem readyReads_concat (history later : List Operation) (op : Operation) :
    readyReads history (later ++ [op]) = readyReads history later +
      if op.isRead && measures (history ++ later) && !sticks (history ++ later) then 1 else 0 := by
  induction later generalizing history with
  | nil => simp [readyReads]
  | cons first rest ih =>
      rw [List.cons_append, readyReads, readyReads, ih, Nat.add_assoc, List.append_assoc,
        List.singleton_append]

/-- What an operation does to a board. -/
structure Performs (s : Simulated) (op : Operation) (s' : Simulated) : Prop where
  rate : s'.rate = s.rate
  waveform : s'.waveform = s.waveform
  measuring : s'.measuring = op.measuring?.getD s.measuring
  stuck : s'.stuck = op.stuck?.getD s.stuck
  bridge : s'.bridge = op.bridge?.getD s.bridge
  reads : s'.reads = s.reads + if op.isRead then 1 else 0
  index : s'.index = s.index + ((s.outcome? op).bind ReadOutcome.row?).toList.length
  /-- A read uses up an injected fault if it gets that far. -/
  failNext : s'.failNext =
    op.injected?.getD (s.failNext - if op.isRead && s.measuring && !s.stuck then 1 else 0)

theorem performs (s : Simulated) (op : Operation) : Performs s op (s.perform op) := by
  cases op with
  | read timeout =>
      rcases s.read_cases timeout with
          ⟨hm, h⟩ | ⟨hm, hs, h⟩ | ⟨hm, hs, -, h⟩ | ⟨hm, hs, hdue, h⟩ <;>
        rw [perform, h] <;> refine ⟨rfl, rfl, rfl, rfl, rfl, rfl, by rw [outcome?, h]; rfl, ?_⟩ <;>
        simp_all [Operation.injected?, Operation.isRead]
  | setMeasuring on => exact ⟨rfl, rfl, rfl, rfl, rfl, rfl, rfl, rfl⟩
  | selectBridge bridge => exact ⟨rfl, rfl, rfl, rfl, rfl, rfl, rfl, rfl⟩
  | injectFaults n => exact ⟨rfl, rfl, rfl, rfl, rfl, rfl, rfl, rfl⟩
  | setStuck on => exact ⟨rfl, rfl, rfl, rfl, rfl, rfl, rfl, rfl⟩
  | setPressed on => exact ⟨rfl, rfl, rfl, rfl, rfl, rfl, rfl, rfl⟩

/-! ### Histories -/

section

variable (hz : Nat) (signal : Waveform)

/-- A new board, after a history. -/
def after (history : List Operation) : Simulated := (ofRate hz signal).performAll history

theorem after_concat (history : List Operation) (op : Operation) :
    after hz signal (history ++ [op]) = (after hz signal history).perform op :=
  performAll_concat ..

/-- What a board shows of its history, apart from the faults that are due. -/
structure Remembers (history : List Operation) (s : Simulated) : Prop where
  rate : s.rate = max hz 1
  waveform : s.waveform = signal
  measuring : s.measuring = measures history
  stuck : s.stuck = sticks history
  bridge : s.bridge = selected history
  reads : s.reads = history.countP Operation.isRead
  index : s.index = ((ofRate hz signal).rows history).length

theorem remembers_after (history : List Operation) :
    Remembers hz signal history (after hz signal history) := by
  induction history using List.reverseRecOn with
  | nil => exact ⟨rfl, rfl, rfl, rfl, rfl, rfl, rfl⟩
  | append_singleton history op ih =>
      have step := performs (after hz signal history) op
      rw [after_concat]
      constructor
      · rw [step.rate, ih.rate]
      · rw [step.waveform, ih.waveform]
      · rw [step.measuring, ih.measuring, measures, measures, latest_concat]
      · rw [step.stuck, ih.stuck, sticks, sticks, latest_concat]
      · rw [step.bridge, ih.bridge, selected, selected, latest_concat]
      · rw [step.reads, ih.reads, List.countP_append, List.countP_singleton]
      · rw [step.index, ih.index, rows_concat, List.length_append]
        rfl

/-- Without an injection nothing is due. -/
theorem failNext_of_uninjected {history : List Operation}
    (h : ∀ op ∈ history, op.injected? = none) : (after hz signal history).failNext = 0 := by
  induction history using List.reverseRecOn with
  | nil => rfl
  | append_singleton history op ih =>
      rw [List.forall_mem_append, List.forall_mem_singleton] at h
      rw [after_concat, (performs _ op).failNext, h.2, Option.getD_none, ih h.1, Nat.zero_sub]

/-- What is due of an injection is what it began with less the reads that used it up. -/
theorem failNext_eq (before : List Operation) (n : Nat) {later : List Operation}
    (h : ∀ op ∈ later, op.injected? = none) :
    (after hz signal (before ++ .injectFaults n :: later)).failNext =
      n - readyReads (before ++ [.injectFaults n]) later := by
  induction later using List.reverseRecOn with
  | nil =>
      rw [after_concat, (performs _ _).failNext]
      rfl
  | append_singleton later op ih =>
      rw [List.forall_mem_append, List.forall_mem_singleton] at h
      have hmemory := remembers_after hz signal (before ++ .injectFaults n :: later)
      rw [← List.cons_append, ← List.append_assoc, after_concat, (performs _ op).failNext, h.2,
        Option.getD_none, ih h.1, hmemory.measuring, hmemory.stuck, readyReads_concat,
        List.append_assoc, List.singleton_append, Nat.sub_sub]

/-- A history has an injection that no other follows, or none at all. -/
theorem injection_cases (history : List Operation) :
    (∀ op ∈ history, op.injected? = none) ∨
    ∃ before n later, history = before ++ .injectFaults n :: later ∧
      ∀ op ∈ later, op.injected? = none := by
  induction history using List.reverseRecOn with
  | nil => exact .inl (by simp)
  | append_singleton history op ih =>
      cases hop : op.injected? with
      | some n =>
          cases op <;> cases hop
          exact .inr ⟨history, n, [], rfl, by simp⟩
      | none =>
          rcases ih with hnone | ⟨before, n, later, rfl, hnone⟩
          · exact .inl (List.forall_mem_append.mpr ⟨hnone, List.forall_mem_singleton.mpr hop⟩)
          · refine .inr ⟨before, n, later ++ [op], by simp, ?_⟩
            exact List.forall_mem_append.mpr ⟨hnone, List.forall_mem_singleton.mpr hop⟩

theorem faultDue_iff (history : List Operation) :
    FaultDue history ↔ 0 < (after hz signal history).failNext := by
  constructor
  · rintro ⟨before, n, later, rfl, hnone, hreads⟩
    rw [failNext_eq hz signal before n hnone]
    exact Nat.sub_pos_of_lt hreads
  · intro hdue
    rcases injection_cases history with hnone | ⟨before, n, later, rfl, hnone⟩
    · rw [failNext_of_uninjected hz signal hnone] at hdue
      exact absurd hdue (Nat.lt_irrefl 0)
    · rw [failNext_eq hz signal before n hnone] at hdue
      exact ⟨before, n, later, rfl, hnone, Nat.lt_of_sub_pos hdue⟩

end

/-- **A read ends as the history says.** The row that comes after `k` others is the sample with
index `k` under the bridge that was selected last, whatever failed before it; a read fails if the
board does not measure, else if it is stuck, else if injected faults are due, of which each
injection makes its number of reads fail. -/
theorem reads_follow_history (hz : Nat) (signal : Waveform) (history : List Operation)
    (timeout : Duration) :
    let board := after hz signal history
    let outcome := (Board.read timeout board).2
    (∀ raw, outcome = .row raw ↔
      (measures history = true ∧ sticks history = false ∧ ¬FaultDue history) ∧
        raw = signal.sample (max hz 1) ((ofRate hz signal).rows history).length
          (selected history)) ∧
    (outcome = .fault (.simulated "injected read fault") ↔
      measures history = true ∧ sticks history = false ∧ FaultDue history) ∧
    (outcome = .fault .timeout ↔ measures history = true ∧ sticks history = true) ∧
    (outcome = .fault (.simulated "measurement disabled") ↔ measures history = false) ∧
    board.reads = history.countP Operation.isRead := by
  have h := remembers_after hz signal history
  rw [← h.measuring, ← h.stuck, ← h.bridge, ← h.index, ← h.rate, faultDue_iff hz signal history]
  obtain ⟨hrow, hinjected, htimeout, hdisabled⟩ := (after hz signal history).read_snd timeout
  rw [h.waveform] at hrow
  exact ⟨hrow, hinjected, htimeout, hdisabled, h.reads⟩

end Board.Simulated

end QuadDaq

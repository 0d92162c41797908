import QuadDaq.Board.Scripted
import QuadDaq.Driver.Build
import QuadDaq.Proofs.Driver.Moves
import QuadDaq.Proofs.Settings.Shaping
import QuadDaq.Proofs.Stream.History
import QuadDaq.Proofs.Stream.Tally

/-!
# Runs of a driver

**What holds of every driver that was built, after any commands** (`sound_of_build`). A
driver is sound if its two sides agree (`Linked`) and each of them keeps its books: the
engine those of ticks and rows, the delivery side those of batches. A move of the driver
is a sequence of changes of either side, so everything here is put together from what
single changes preserve.
-/

namespace QuadDaq

open Relation (ReflTransGen)

/-- The engine keeps the books of its ticks and rows. -/
structure Engine.Sound {β : Type} (e : Engine β) : Prop where
  coherent : e.Coherent
  numbered : e.Numbered
  crashesLast : e.CrashesLast
  tallied : e.Tallied
  explained : e.Explained
  keepsRows : e.KeepsRows
  reported : e.Reported
  batchRows : 0 < e.store.shape.batchRows
  queueCapacity : 0 < e.config.queueCapacity

theorem Engine.Change.sound {β : Type} {e e' : Engine β} (h : Engine.Change e e') (he : e.Sound) :
    e'.Sound where
  coherent := h.coherent he.coherent
  numbered := h.numbered he.numbered
  crashesLast := h.crashesLast he.numbered he.crashesLast
  tallied := h.tallied he.tallied
  explained := h.explained he.explained
  keepsRows := h.keepsRows he.coherent he.keepsRows
  reported := h.reported he.reported
  batchRows := h.batchRows_pos he.batchRows
  queueCapacity := h.config_eq ▸ he.queueCapacity

/-- The delivery side keeps the books of its batches. -/
structure Delivery.Sound (d : Delivery) : Prop where
  tidy : d.Tidy
  balanced : d.Balanced
  counted : d.toConsumers.Counted
  accounts : ∀ k, d.Accounts k

theorem Delivery.Change.sound {n : Nat} {d d' : Delivery} (h : Delivery.Change n d d')
    (hd : d.Sound) : d'.Sound where
  tidy := h.tidy hd.tidy
  balanced := h.balanced hd.tidy hd.balanced
  counted := h.counted hd.counted
  accounts k := h.accounts hd.tidy (hd.accounts k)

namespace Driver

variable {β : Type}

/-- Both sides of the driver keep their books and agree with each other, and the current
outlet has the configured room. -/
structure Sound (d : Driver β) : Prop extends Linked d where
  engine : d.engine.Sound
  delivery : d.delivery.Sound
  room : ∀ o, d.delivery.current = some o →
    o.batches.capacity = max d.engine.config.queueCapacity 1

theorem config_eq_of_changes {e e' : Engine β} (h : ReflTransGen Engine.Change e e') :
    e'.config = e.config := by
  induction h with
  | refl => rfl
  | tail _ hchange ih => exact hchange.config_eq.trans ih

theorem publishAll_capacity {n k : Nat} (signals : List Signal) :
    ∀ d : Delivery, (∀ o, d.current = some o → o.batches.capacity = n) →
      ∀ o, (d.publishAll k signals).current = some o → o.batches.capacity = n := by
  induction signals with
  | nil => exact fun d hd => hd
  | cons s rest ih =>
      intro d hd
      refine ih (d.publish k s) fun o' ho' => ?_
      obtain ⟨o, ho, hsame⟩ := (d.publish_fate k s).current ho'
      rw [hsame.capacity, hd o ho]

theorem turn_capacity {n : Nat} {d d' : Delivery} (h : Delivery.Turn d d')
    (hd : ∀ o, d.current = some o → o.batches.capacity = n) :
    ∀ o, d'.current = some o → o.batches.capacity = n := by
  cases h with
  | worked ho hwork =>
      intro o' ho'
      rw [← Option.some.inj ho', hwork.capacity_eq]
      exact hd _ ho
  | workedRetired _ _ => exact hd
  | letGo _ _ => exact hd
  | registered kind consumer => exact hd
  | held kind on => exact hd

theorem Move.room {stops : Bool} {d d' : Driver β} (h : Move stops d d') {n : Nat}
    (hn : max d.engine.config.queueCapacity 1 = n)
    (hd : ∀ o, d.delivery.current = some o → o.batches.capacity = n) :
    ∀ o, d'.delivery.current = some o → o.batches.capacity = n := by
  cases h with
  | aside _ _ _ _ => exact hd
  | readHeld on => exact hd
  | started _ _ _ =>
      intro o ho
      rw [← Option.some.inj ho, ← hn]
      rfl
  | stopped _ _ _ _ _ =>
      intro o ho
      rw [Delivery.closeStream_current] at ho
      cases ho
  | ticked _ _ => exact publishAll_capacity _ _ hd
  | turned hturn => exact turn_capacity hturn hd

/-- Every move keeps a driver sound. -/
theorem Move.sound {stops : Bool} {d d' : Driver β} (h : Move stops d d') (hd : d.Sound) : d'.Sound where
  toLinked := h.linked hd.toLinked
  engine :=
    preserved_of_changes (P := Engine.Sound) (fun _ _ => Engine.Change.sound) h.engine_changes
      hd.engine
  delivery :=
    preserved_of_changes (P := Delivery.Sound) (fun _ _ => Delivery.Change.sound)
      (h.delivery_changes hd.toLinked) hd.delivery
  room := by
    rw [config_eq_of_changes h.engine_changes]
    exact h.room rfl hd.room

/-- What every move of a sound driver preserves, every sequence of moves preserves. -/
theorem moves_induction {stops : Bool} {P : Driver β → Prop}
    (hmove : ∀ d d', d.Sound → Move stops d d' → P d → P d') {d d' : Driver β}
    (h : ReflTransGen (Move stops) d d') (hd : d.Sound) (hP : P d) : d'.Sound ∧ P d' := by
  induction h with
  | refl => exact ⟨hd, hP⟩
  | tail _ h ih => exact ⟨h.sound ih.1, hmove _ _ ih.1 h ih.2⟩

/-! ### Commands -/

section Board

variable [Board β]

/-- The driver after these commands. -/
def after (d : Driver β) (commands : List (Command β)) : Driver β :=
  commands.foldl (fun d command => (d.step command).1) d

@[simp] theorem after_nil (d : Driver β) : d.after [] = d := rfl

@[simp] theorem after_cons (d : Driver β) (command : Command β) (rest : List (Command β)) :
    d.after (command :: rest) = (d.step command).1.after rest := rfl

/-- A run of commands is one way for the threads to take turns. -/
theorem slices_after (commands : List (Command β)) :
    ∀ d : Driver β, ReflTransGen Slice d (d.after commands) := by
  induction commands with
  | nil => exact fun _ => .refl
  | cons command rest ih => exact fun d => .head (.commanded command) (ih _)

theorem after_append (d : Driver β) (commands more : List (Command β)) :
    d.after (commands ++ more) = (d.after commands).after more :=
  List.foldl_append

/-- What every move of a sound driver preserves, every command preserves. -/
theorem step_induction {P : Driver β → Prop}
    (hmove : ∀ stops d d', d.Sound → Move stops d d' → P d → P d') {d : Driver β} (hd : d.Sound) (hP : P d)
    (command : Command β) : (d.step command).1.Sound ∧ P (d.step command).1 :=
  moves_induction (fun _ _ => hmove _ _ _) (step_moves hd.toLinked command) hd hP

/-- What every move of a sound driver preserves, every run preserves. -/
theorem after_induction {P : Driver β → Prop}
    (hmove : ∀ stops d d', d.Sound → Move stops d d' → P d → P d') {d : Driver β} (hd : d.Sound) (hP : P d)
    (commands : List (Command β)) : (d.after commands).Sound ∧ P (d.after commands) := by
  induction commands generalizing d with
  | nil => exact ⟨hd, hP⟩
  | cons command rest ih =>
      obtain ⟨hd', hP'⟩ := step_induction hmove hd hP command
      exact ih hd' hP'

theorem Sound.after {d : Driver β} (hd : d.Sound) (commands : List (Command β)) :
    (d.after commands).Sound :=
  (after_induction (P := fun _ => True) (fun _ _ _ _ _ _ => trivial) hd trivial commands).1

/-- A run takes the engine from change to change. -/
theorem changes_after {d : Driver β} (hd : d.Sound) (commands : List (Command β)) :
    ReflTransGen Engine.Change d.engine (d.after commands).engine :=
  (after_induction (P := fun d' => ReflTransGen Engine.Change d.engine d'.engine)
    (fun _ _ _ _ hmove h => h.trans hmove.engine_changes) hd .refl commands).2

end Board

/-! ### New drivers -/

/-- A driver that is built has parameters within their limits and nothing has happened
to it. -/
theorem build_inv {plan : DriverPlan β} {d : Driver β} (h : plan.build = .ok d) :
    ∃ board store, exceededLimit? plan.config plan.button = none ∧ plan.store = .ok store ∧
      d = { engine := plan.engine board store } := by
  unfold DriverPlan.build at h
  cases hboard : plan.board with
  | none => simp only [hboard, reduceCtorEq] at h
  | some board =>
      cases hlimit : exceededLimit? plan.config plan.button with
      | some limit => simp only [hboard, hlimit, reduceCtorEq] at h
      | none =>
          cases hstore : plan.store with
          | error refusal => simp only [hboard, hlimit, hstore, reduceCtorEq] at h
          | ok store =>
              simp only [hboard, hlimit, hstore, Except.ok.injEq] at h
              exact ⟨board, store, rfl, rfl, h.symm⟩

theorem exceededLimit?_eq_none {config : AcquisitionConfig} {button : ButtonConfig}
    (h : exceededLimit? config button = none) :
    0 < config.batchRows ∧ 0 < config.queueCapacity ∧ 0 < button.pollMillis := by
  unfold exceededLimit? at h
  split at h
  · cases h
  split at h
  · cases h
  split at h
  · cases h
  split at h
  · cases h
  split at h
  · cases h
  · omega

/-- A new store has the shape that was asked for, and has not frozen it. -/
theorem store_of_plan {plan : DriverPlan β} {store : Settings.Store} (h : plan.store = .ok store) :
    store.shape = plan.config.shape ∧ store.frozen = false := by
  unfold DriverPlan.store at h
  cases hpreset : plan.calibration with
  | none =>
      simp only [hpreset, Except.ok.injEq] at h
      rw [← h]
      exact ⟨rfl, rfl⟩
  | some preset =>
      simp only [hpreset] at h
      have hrun : (Settings.Command.preset preset).run (.ofShape plan.config.shape) = .ok store := h
      exact ⟨Settings.Command.run_shape hrun, Settings.Command.run_frozen hrun⟩

theorem engine_sound (plan : DriverPlan β) (board : β) {store : Settings.Store}
    (hrows : 0 < store.shape.batchRows) (hcapacity : 0 < plan.config.queueCapacity) :
    (plan.engine board store).Sound where
  coherent := ⟨by simp [DriverPlan.engine], by simp [DriverPlan.engine], by simp [DriverPlan.engine]⟩
  numbered := ⟨by simp [Engine.course, courseOf, DriverPlan.engine], by simp [DriverPlan.engine]⟩
  crashesLast := by simp [Engine.CrashesLast, DriverPlan.engine]
  tallied := ⟨rfl, rfl, rfl, rfl⟩
  explained := by
    intro p hp
    cases hp
  keepsRows := rfl
  reported := by
    intro before k r after hcourse
    exact absurd hcourse.symm (by simp [Engine.course, courseOf, DriverPlan.engine])
  batchRows := hrows
  queueCapacity := hcapacity

theorem delivery_sound : (({} : Delivery)).Sound where
  tidy := ⟨by simp, by simp⟩
  balanced := fun _ => rfl
  counted := ⟨rfl, rfl, rfl⟩
  accounts _ := ⟨[], 0, .nil, rfl, by simp⟩

/-- A new driver is sound. -/
theorem sound_of_build {plan : DriverPlan β} {d : Driver β} (h : plan.build = .ok d) :
    d.Sound := by
  obtain ⟨board, store, hlimits, hstore, rfl⟩ := build_inv h
  have hrows : 0 < store.shape.batchRows := by
    rw [(store_of_plan hstore).1]
    exact (exceededLimit?_eq_none hlimits).1
  have hengine := engine_sound plan board hrows (exceededLimit?_eq_none hlimits).2.1
  refine ⟨⟨hengine.coherent, hengine.numbered, ⟨?_, ?_, ?_⟩, rfl, ?_, ?_⟩, hengine, delivery_sound, ?_⟩
  · intro event hevent
    cases hevent
  · simp
  · simp
  · simp [DriverPlan.engine]
  · simp
  · simp

/-- The driver is what some commands made of a driver that was built. -/
def Reachable [Board β] (d : Driver β) : Prop :=
  ∃ (plan : DriverPlan β) (new : Driver β) (commands : List (Command β)),
    plan.build = .ok new ∧ d = new.after commands

theorem Reachable.of_build [Board β] {plan : DriverPlan β} {new : Driver β}
    (h : plan.build = .ok new) (commands : List (Command β)) : (new.after commands).Reachable :=
  ⟨plan, new, commands, h, rfl⟩

theorem Reachable.sound [Board β] {d : Driver β} (h : d.Reachable) : d.Sound := by
  obtain ⟨plan, new, commands, hbuild, rfl⟩ := h
  exact (sound_of_build hbuild).after commands

theorem Reachable.after [Board β] {d : Driver β} (hd : d.Reachable) (commands : List (Command β)) :
    (d.after commands).Reachable := by
  obtain ⟨plan, new, before, hbuild, rfl⟩ := hd
  exact ⟨plan, new, before ++ commands, hbuild, (after_append _ _ _).symm⟩

/-- A small plan: batches of two rows, and a board that brings one row and then fails. -/
def scripted : DriverPlan Board.Scripted where
  board := some { script := [.ok (PerChannel.uniform 0.0), .error "timeout"] }
  config := { batchRows := 2 }

/-- The driver that is built from it. -/
def scriptedDriver : Driver Board.Scripted where
  engine := scripted.engine { script := [.ok (PerChannel.uniform 0.0), .error "timeout"] }
    (.ofShape scripted.config.shape)

theorem scripted_build : scripted.build = .ok scriptedDriver := rfl

/-- A driver that can calibrate its rows. -/
def readied : Driver Board.Scripted := scriptedDriver.after [.configure (.preset .identity)]

/-- The same board with batches of one row, of which only one can wait. -/
def cramped : DriverPlan Board.Scripted where
  board := scripted.board
  config := { batchRows := 1, queueCapacity := 1 }

/-- The driver that is built from it. -/
def crampedDriver : Driver Board.Scripted where
  engine := cramped.engine scriptedDriver.engine.board (.ofShape cramped.config.shape)

theorem cramped_build : cramped.build = .ok crampedDriver := rfl

/-- The same, and it can calibrate its rows. -/
def crowded : Driver Board.Scripted := crampedDriver.after [.configure (.preset .identity)]

end Driver

end QuadDaq

import Mathlib.Algebra.Group.Nat.Defs
import QuadDaq.Proofs.Settings.Commit

/-!
# Selections of the bridge

**The epoch counts the selections.** A command selects the bridge at most once, because no
two assignments of a commit write the same setting. If it does, the epoch advances by one, and
otherwise both the selection and the epoch stay (`Command.run_bridge`).
-/

namespace QuadDaq.Settings

/-- The bridge that an assignment selects. -/
def Assignment.bridge? : Assignment → Option Bridge
  | bridge b => some b
  | _ => none

/-- The bridge that a command selects: one that holds an assignment of the bridge and is not
refused. -/
def Command.selected? (s : Store) (command : Command) : Option Bridge :=
  match command.assignments with
  | .ok batch => if (s.commit batch).isOk then batch.findSome? Assignment.bridge? else none
  | .error _ => none

/-- What a selection makes of the epoch. -/
def advanceEpoch (epoch : UInt64) (selection : Option Bridge) : UInt64 :=
  if selection.isSome then epoch + 1 else epoch

theorem Assignment.bridge?_eq_none_of_key {a : Assignment} (h : a.key ≠ .bridge) :
    a.bridge? = none := by
  cases a <;> first | rfl | exact absurd rfl h

/-- An assignment selects what it says, and leaves the selection alone otherwise. -/
theorem Store.assign_bridge (s : Store) (a : Assignment) :
    (s.assign a).snapshot.bridge = a.bridge?.getD s.snapshot.bridge ∧
      (s.assign a).snapshot.bridgeEpoch = advanceEpoch s.snapshot.bridgeEpoch a.bridge? := by
  cases a <;> exact ⟨rfl, rfl⟩

/-- Of assignments to different settings one at most selects the bridge. -/
theorem Store.foldl_assign_bridge {batch : List Assignment}
    (hkeys : (batch.map Assignment.key).Nodup) (s : Store) :
    (batch.foldl assign s).snapshot.bridge =
        (batch.findSome? Assignment.bridge?).getD s.snapshot.bridge ∧
      (batch.foldl assign s).snapshot.bridgeEpoch =
        advanceEpoch s.snapshot.bridgeEpoch (batch.findSome? Assignment.bridge?) := by
  induction batch generalizing s with
  | nil => exact ⟨rfl, rfl⟩
  | cons a batch ih =>
      obtain ⟨hnew, hkeys⟩ := List.nodup_cons.mp hkeys
      obtain ⟨hbridge, hepoch⟩ := ih hkeys (s.assign a)
      obtain ⟨hbridge₁, hepoch₁⟩ := s.assign_bridge a
      rw [List.foldl_cons, hbridge, hepoch, hbridge₁, hepoch₁, List.findSome?_cons]
      cases hselected : a.bridge? with
      | none => exact ⟨rfl, rfl⟩
      | some b =>
          -- The later assignments write other settings.
          have hkey : a.key = .bridge :=
            Decidable.byContradiction fun hne => by
              rw [Assignment.bridge?_eq_none_of_key hne] at hselected
              cases hselected
          have hnone : batch.findSome? Assignment.bridge? = none := by
            rw [List.findSome?_eq_none_iff]
            intro a' ha'
            refine Assignment.bridge?_eq_none_of_key fun heq => hnew ?_
            rw [hkey, ← heq]
            exact List.mem_map_of_mem ha'
          rw [hnone]
          exact ⟨rfl, rfl⟩

namespace Command

variable {command : Command} {s s' : Store}

theorem selected?_of_error {refusal : Refusal} (h : command.run s = .error refusal) :
    command.selected? s = none := by
  rw [run_eq] at h
  unfold selected?
  cases hbatch : command.assignments with
  | error _ => rfl
  | ok batch =>
      rw [hbatch] at h
      have hcommit : s.commit batch = .error refusal := h
      simp [hcommit, Except.isOk, Except.toBool]

/-- A command that is carried out selects the bridge once or not at all. -/
theorem run_bridge (h : command.run s = .ok s') :
    s'.snapshot.bridge = (command.selected? s).getD s.snapshot.bridge ∧
      s'.snapshot.bridgeEpoch = advanceEpoch s.snapshot.bridgeEpoch (command.selected? s) := by
  obtain ⟨batch, hbatch, hchecked, hfrozen, rfl⟩ := run_inv h
  have hcommit : s.commit batch = .ok (batch.foldl Store.assign s) :=
    Store.commit_eq_ok_iff.mpr ⟨hfrozen, rfl⟩
  have hselected : command.selected? s = batch.findSome? Assignment.bridge? := by
    simp only [selected?, hbatch, hcommit, Except.isOk, Except.toBool, if_true]
  rw [hselected]
  exact Store.foldl_assign_bridge hchecked.keys s

end Command

/-- Repeated selections advance the epoch as often, modulo `2 ^ 64`. -/
theorem toNat_advanceEpoch (epoch : UInt64) (selection : Option Bridge) :
    (advanceEpoch epoch selection).toNat =
      (epoch.toNat + if selection.isSome then 1 else 0) % 2 ^ 64 := by
  unfold advanceEpoch
  split
  · rw [UInt64.toNat_add]
    rfl
  · rw [Nat.add_zero, Nat.mod_eq_of_lt epoch.toNat_lt]

/-- A store that is `pending` selections ahead of an epoch, with the bridge of that epoch if
there are none, is ahead by those of a command as well when the command has been carried out. -/
theorem Command.run_ahead {command : Command} {s s' : Store} {b : Bridge} {epoch : UInt64}
    {pending : Nat} (h : command.run s = .ok s') (hbridge : pending = 0 → b = s.snapshot.bridge)
    (hepoch : s.snapshot.bridgeEpoch.toNat = (epoch.toNat + pending) % 2 ^ 64) :
    (pending + (command.selected? s).toList.length = 0 → b = s'.snapshot.bridge) ∧
      s'.snapshot.bridgeEpoch.toNat =
        (epoch.toNat + (pending + (command.selected? s).toList.length)) % 2 ^ 64 := by
  obtain ⟨hbridge', hepoch'⟩ := run_bridge h
  constructor
  · intro hnone
    obtain ⟨hpending, hselected⟩ := Nat.add_eq_zero_iff.mp hnone
    rw [List.length_eq_zero_iff, Option.toList_eq_nil_iff] at hselected
    rw [hbridge', hselected, Option.getD_none]
    exact hbridge hpending
  · rw [hepoch', toNat_advanceEpoch, hepoch, Nat.mod_add_mod, Nat.add_assoc]
    cases command.selected? s <;> rfl

/-- Fewer than `2 ^ 64` selections cannot hide behind one epoch. -/
theorem eq_zero_of_ahead {epoch : UInt64} {pending : Nat} (hlt : pending < 2 ^ 64)
    (h : epoch.toNat = (epoch.toNat + pending) % 2 ^ 64) : pending = 0 := by
  have := epoch.toNat_lt
  omega

end QuadDaq.Settings

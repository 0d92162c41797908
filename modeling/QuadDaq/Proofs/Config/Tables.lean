import Mathlib.Data.List.Perm.Subperm
import Mathlib.Data.List.Range
import QuadDaq.Config.CalibrationTable
import QuadDaq.Proofs.Settings.Presets

/-!
# Complete calibration tables

**No channel of an accepted table is left blank.** That is nowhere checked: it follows from
the number of rows and from channels that exist and differ (`exists_row`). So a table holds
nothing but values of its rows, and all of them can be calibrated with
(`usable_of_ofRows`).

Rows are accepted exactly if they are complete, in whatever order they come; of rows that are
not, the first one with a fault is reported (`complete_iff_accepted`).
-/

namespace QuadDaq

/-- The channel of the row exists, and its values can be calibrated with. -/
structure CalibrationRow.Usable (r : CalibrationRow) : Prop where
  channel : r.channel < channelCount
  offset : r.offset.isFinite = true
  gain : r.gain.isFinite = true ∧ (r.gain == 0.0) = false
  transmission : r.transmission.isFinite = true ∧ (r.transmission == 0.0) = false

/-- What is wrong with a row if these channels are taken. Of several faults of a row the first one
of this list counts. -/
inductive CalibrationRow.Fault (taken : List Nat) (r : CalibrationRow) : TableProblem → Prop
  | channelOutOfRange (h : channelCount ≤ r.channel) : Fault taken r (.channelOutOfRange r.channel)
  | channelTwice (hrange : r.channel < channelCount) (h : r.channel ∈ taken) :
      Fault taken r (.channelTwice r.channel)
  | offset (hrange : r.channel < channelCount) (hnew : r.channel ∉ taken)
      (h : ¬r.offset.isFinite = true) : Fault taken r (.offsetNotFinite r.channel)
  | gain (hrange : r.channel < channelCount) (hnew : r.channel ∉ taken)
      (hoffset : r.offset.isFinite = true)
      (h : ¬(r.gain.isFinite = true ∧ (r.gain == 0.0) = false)) :
      Fault taken r (.unusableGain r.channel)
  | transmission (hrange : r.channel < channelCount) (hnew : r.channel ∉ taken)
      (hoffset : r.offset.isFinite = true)
      (hgain : r.gain.isFinite = true ∧ (r.gain == 0.0) = false)
      (h : ¬(r.transmission.isFinite = true ∧ (r.transmission == 0.0) = false)) :
      Fault taken r (.unusableTransmission r.channel)

namespace CalibrationTable

variable {t t' : CalibrationTable} {rows : List CalibrationRow} {seen : List Nat}

theorem rowProblem?_eq_none_iff {r : CalibrationRow} :
    rowProblem? seen r = none ↔ r.channel ∉ seen ∧ r.Usable := by
  have husable : r.Usable ↔ r.channel < channelCount ∧ r.offset.isFinite = true ∧
      Settings.Assignment.usableFactor r.gain = true ∧
      Settings.Assignment.usableFactor r.transmission = true := by
    rw [Settings.usableFactor_iff, Settings.usableFactor_iff]
    exact ⟨fun h => ⟨h.channel, h.offset, h.gain, h.transmission⟩,
      fun ⟨hc, ho, hg, ht⟩ => ⟨hc, ho, hg, ht⟩⟩
  rw [husable, rowProblem?]
  split
  · simp; omega
  split
  · simp_all
  split
  · simp_all
  split
  · simp_all
  split <;> simp_all

/-- A row has a fault exactly if it is refused with it. -/
theorem rowProblem?_eq_some_iff {r : CalibrationRow} {problem : TableProblem} :
    rowProblem? seen r = some problem ↔ r.Fault seen problem := by
  have hfactor : ∀ x, (!Settings.Assignment.usableFactor x) = true ↔
      ¬(x.isFinite = true ∧ (x == 0.0) = false) := by
    intro x
    rw [← Settings.usableFactor_iff, Bool.not_eq_true', Bool.not_eq_true]
  unfold rowProblem?
  constructor
  · intro h
    split at h
    · next hrange =>
        cases h
        exact .channelOutOfRange hrange
    split at h
    · next hrange htaken =>
        cases h
        exact .channelTwice (Nat.lt_of_not_le hrange) htaken
    split at h
    · next hrange hnew hoffset =>
        cases h
        exact .offset (Nat.lt_of_not_le hrange) hnew (by simpa using hoffset)
    split at h
    · next hrange hnew hoffset hgain =>
        cases h
        exact .gain (Nat.lt_of_not_le hrange) hnew (by simpa using hoffset) ((hfactor _).mp hgain)
    split at h
    · next hrange hnew hoffset hgain htransmission =>
        cases h
        exact .transmission (Nat.lt_of_not_le hrange) hnew (by simpa using hoffset)
          (not_not.mp (mt (hfactor _).mpr hgain)) ((hfactor _).mp htransmission)
    · cases h
  · intro h
    cases h with
    | channelOutOfRange h => rw [if_pos h]
    | channelTwice hrange h => rw [if_neg (Nat.not_le_of_lt hrange), if_pos h]
    | offset hrange hnew h =>
        rw [if_neg (Nat.not_le_of_lt hrange), if_neg hnew, if_pos (by simpa using h)]
    | gain hrange hnew hoffset h =>
        rw [if_neg (Nat.not_le_of_lt hrange), if_neg hnew, if_neg (by simpa using hoffset),
          if_pos ((hfactor _).mpr h)]
    | transmission hrange hnew hoffset hgain h =>
        rw [if_neg (Nat.not_le_of_lt hrange), if_neg hnew, if_neg (by simpa using hoffset),
          if_neg (mt (hfactor _).mp (not_not.mpr hgain)), if_pos ((hfactor _).mpr h)]

/-- It does not matter in which order the channels were taken. -/
theorem fault_congr {taken : List Nat} (h : seen.Perm taken) {r : CalibrationRow}
    {problem : TableProblem} : r.Fault seen problem ↔ r.Fault taken problem := by
  rw [← rowProblem?_eq_some_iff, ← rowProblem?_eq_some_iff, rowProblem?, rowProblem?]
  simp only [h.mem_iff]

/-! ### Rows that are entered -/

/-- Rows are entered to the end if their channels are new and their values usable. -/
theorem enterAll_eq_ok_iff :
    enterAll t seen rows = .ok t' ↔
      (∀ r ∈ rows, r.Usable) ∧ (rows.map CalibrationRow.channel).Nodup ∧
        (∀ r ∈ rows, r.channel ∉ seen) ∧ rows.foldl enter t = t' := by
  induction rows generalizing t seen with
  | nil => simp [enterAll]
  | cons r rest ih =>
      cases hproblem : rowProblem? seen r with
      | some problem =>
          have hnot : ¬(r.channel ∉ seen ∧ r.Usable) := by
            rw [← rowProblem?_eq_none_iff, hproblem]
            simp
          simp only [enterAll, hproblem, List.forall_mem_cons, reduceCtorEq, false_iff]
          exact fun ⟨⟨husable, _⟩, _, ⟨hnew, _⟩, _⟩ => hnot ⟨hnew, husable⟩
      | none =>
          obtain ⟨hnew, husable⟩ := rowProblem?_eq_none_iff.mp hproblem
          simp only [enterAll, hproblem, ih, List.forall_mem_cons, List.map_cons, List.nodup_cons,
            List.foldl_cons]
          constructor
          · rintro ⟨hrest, hnodup, hdiffer, hfold⟩
            refine ⟨⟨husable, hrest⟩, ⟨fun hmem => ?_, hnodup⟩,
              ⟨hnew, fun x hx => (List.ne_and_not_mem_of_not_mem_cons (hdiffer x hx)).2⟩, hfold⟩
            obtain ⟨x, hx, heq⟩ := List.mem_map.mp hmem
            exact (List.ne_and_not_mem_of_not_mem_cons (hdiffer x hx)).1 heq
          · rintro ⟨⟨_, hrest⟩, ⟨hdiffer, hnodup⟩, ⟨_, hseen⟩, hfold⟩
            refine ⟨hrest, hnodup, fun x hx => ?_, hfold⟩
            refine List.not_mem_cons_of_ne_of_not_mem (fun heq => hdiffer ?_) (hseen x hx)
            exact heq ▸ List.mem_map_of_mem hx

/-- A table is accepted if it has four rows, all of them usable and no two for one channel. -/
theorem ofRows_eq_ok_iff :
    ofRows rows = .ok t ↔ rows.length = channelCount ∧ (∀ r ∈ rows, r.Usable) ∧
      (rows.map CalibrationRow.channel).Nodup ∧ rows.foldl enter blank = t := by
  unfold ofRows
  split
  · next hlength => simp [hlength]
  · next hlength =>
      rw [enterAll_eq_ok_iff, and_iff_right (not_not.mp hlength)]
      simp

/-- Rows are entered up to the first one with a fault. -/
theorem enterAll_eq_error_iff {problem : TableProblem} :
    enterAll t seen rows = .error problem ↔
      ∃ before r after, rows = before ++ r :: after ∧ (∀ b ∈ before, b.Usable) ∧
        (before.map CalibrationRow.channel).Nodup ∧ (∀ b ∈ before, b.channel ∉ seen) ∧
        r.Fault (before.map CalibrationRow.channel ++ seen) problem := by
  induction rows generalizing t seen with
  | nil => simp [enterAll]
  | cons first rest ih =>
      cases hproblem : rowProblem? seen first with
      | some found =>
          have hfault := rowProblem?_eq_some_iff.mp hproblem
          simp only [enterAll, hproblem, Except.error.injEq]
          constructor
          · rintro rfl
            exact ⟨[], first, rest, rfl, by simp, by simp, by simp, hfault⟩
          · rintro ⟨before, r, after, heq, husable, -, hnew, h⟩
            cases before with
            | nil =>
                cases heq
                exact Option.some.inj (hproblem.symm.trans (rowProblem?_eq_some_iff.mpr h))
            | cons b before =>
                cases heq
                have hnone := rowProblem?_eq_none_iff.mpr
                  ⟨hnew first List.mem_cons_self, husable first List.mem_cons_self⟩
                rw [hproblem] at hnone
                cases hnone
      | none =>
          obtain ⟨hnew, husable⟩ := rowProblem?_eq_none_iff.mp hproblem
          simp only [enterAll, hproblem, ih]
          constructor
          · rintro ⟨before, r, after, rfl, hbefore, hnodup, hdiffer, h⟩
            refine ⟨first :: before, r, after, rfl, List.forall_mem_cons.mpr ⟨husable, hbefore⟩,
              List.nodup_cons.mpr ⟨fun hmem => ?_, hnodup⟩,
              List.forall_mem_cons.mpr ⟨hnew, fun b hb => ?_⟩, (fault_congr ?_).mp h⟩
            · obtain ⟨b, hb, heq⟩ := List.mem_map.mp hmem
              exact (List.ne_and_not_mem_of_not_mem_cons (hdiffer b hb)).1 heq
            · exact (List.ne_and_not_mem_of_not_mem_cons (hdiffer b hb)).2
            · exact List.perm_middle
          · rintro ⟨before, r, after, heq, hbefore, hnodup, hseen, h⟩
            cases before with
            | nil =>
                cases heq
                rw [List.map_nil, List.nil_append, ← rowProblem?_eq_some_iff, hproblem] at h
                cases h
            | cons b before =>
                cases heq
                obtain ⟨hdiffer, hnodup⟩ := List.nodup_cons.mp hnodup
                refine ⟨before, r, after, rfl, (List.forall_mem_cons.mp hbefore).2, hnodup,
                  fun b hb => ?_, (fault_congr ?_).mpr h⟩
                · refine List.not_mem_cons_of_ne_of_not_mem (fun heq => hdiffer ?_)
                    ((List.forall_mem_cons.mp hseen).2 b hb)
                  exact heq ▸ List.mem_map_of_mem hb
                · exact List.perm_middle

/-- Rows are refused for their number, and otherwise for the first one with a fault. -/
theorem ofRows_eq_error_iff {problem : TableProblem} :
    ofRows rows = .error problem ↔
      rows.length ≠ channelCount ∧ problem = .rowCount rows.length ∨
      rows.length = channelCount ∧ ∃ before r after, rows = before ++ r :: after ∧
        (∀ b ∈ before, b.Usable) ∧ (before.map CalibrationRow.channel).Nodup ∧
        r.Fault (before.map CalibrationRow.channel) problem := by
  unfold ofRows
  split
  · next hlength => simp [hlength, eq_comm]
  · next hlength =>
      rw [enterAll_eq_error_iff]
      simp [not_not.mp hlength]

/-! ### What a table holds -/

/-- What the table holds for a channel, as a row. -/
def rowOf (t : CalibrationTable) (channel : Fin channelCount) : CalibrationRow where
  channel := channel
  offset := t.offsets[channel]
  gain := t.gains[channel]
  transmission := t.transmissions[channel]

/-- A row that is entered replaces that of its channel. -/
theorem rowOf_enter (t : CalibrationTable) (r : CalibrationRow) (channel : Fin channelCount) :
    (t.enter r).rowOf channel = if r.channel = channel then r else t.rowOf channel := by
  by_cases h : r.channel = channel
  · obtain ⟨n, offset, gain, transmission⟩ := r
    subst h
    simp [enter, rowOf]
  · simp [enter, rowOf, h]

theorem rowOf_foldl_of_not_mem {channel : Fin channelCount}
    (h : ∀ r ∈ rows, r.channel ≠ channel) : (rows.foldl enter t).rowOf channel = t.rowOf channel := by
  induction rows generalizing t with
  | nil => rfl
  | cons r rest ih =>
      obtain ⟨hr, hrest⟩ := List.forall_mem_cons.mp h
      rw [List.foldl_cons, ih hrest, rowOf_enter, if_neg hr]

/-- Of rows with different channels each one is what the table holds for its channel. -/
theorem rowOf_foldl (hnodup : (rows.map CalibrationRow.channel).Nodup) {r : CalibrationRow}
    (hr : r ∈ rows) {channel : Fin channelCount} (hchannel : r.channel = channel) :
    (rows.foldl enter t).rowOf channel = r := by
  induction rows generalizing t with
  | nil => cases hr
  | cons first rest ih =>
      obtain ⟨hnew, hnodup⟩ := List.nodup_cons.mp hnodup
      rcases List.mem_cons.mp hr with rfl | hmem
      · have hother : ∀ r' ∈ rest, r'.channel ≠ channel := by
          rintro r' hr' heq
          exact hnew (hchannel ▸ heq ▸ List.mem_map_of_mem hr')
        rw [List.foldl_cons, rowOf_foldl_of_not_mem hother, rowOf_enter, if_pos hchannel]
      · exact ih hnodup hmem

/-- Four different channels are all channels. -/
theorem perm_range {channels : List Nat} (hlength : channels.length = channelCount)
    (hbound : ∀ n ∈ channels, n < channelCount) (hnodup : channels.Nodup) :
    channels.Perm (List.range channelCount) := by
  have hsubset : channels ⊆ List.range channelCount :=
    fun n hn => List.mem_range.mpr (hbound n hn)
  exact (hnodup.subperm hsubset).perm_of_length_le (by rw [List.length_range, hlength])

/-- What an accepted table holds for a channel is one of its rows. -/
theorem exists_row (h : ofRows rows = .ok t) (channel : Fin channelCount) :
    ∃ r ∈ rows, r.channel = channel ∧ t.rowOf channel = r := by
  obtain ⟨hlength, husable, hnodup, rfl⟩ := ofRows_eq_ok_iff.mp h
  have hperm := perm_range (by rw [List.length_map, hlength])
    (List.forall_mem_map.mpr fun r hr => (husable r hr).channel) hnodup
  have hmem : ↑channel ∈ rows.map CalibrationRow.channel :=
    hperm.mem_iff.mpr (List.mem_range.mpr channel.isLt)
  obtain ⟨r, hr, hchannel⟩ := List.mem_map.mp hmem
  exact ⟨r, hr, hchannel, rowOf_foldl hnodup hr hchannel⟩

/-- Tables that hold the same for every channel are the same. -/
theorem ext_rowOf (h : ∀ channel, t.rowOf channel = t'.rowOf channel) : t = t' := by
  obtain ⟨offsets, gains, transmissions⟩ := t
  obtain ⟨offsets', gains', transmissions'⟩ := t'
  congr 1 <;> refine Vector.ext fun i hi => ?_
  · exact congrArg CalibrationRow.offset (h ⟨i, hi⟩)
  · exact congrArg CalibrationRow.gain (h ⟨i, hi⟩)
  · exact congrArg CalibrationRow.transmission (h ⟨i, hi⟩)

/-- The order of the rows does not matter for an accepted table. -/
theorem ofRows_perm {rows' : List CalibrationRow} (hperm : rows.Perm rows')
    (h : ofRows rows = .ok t) : ofRows rows' = .ok t := by
  obtain ⟨hlength, husable, hnodup, rfl⟩ := ofRows_eq_ok_iff.mp h
  have hnodup' := (hperm.map CalibrationRow.channel).nodup_iff.mp hnodup
  refine ofRows_eq_ok_iff.mpr ⟨hperm.length_eq ▸ hlength,
    fun r hr => husable r (hperm.mem_iff.mpr hr), hnodup', ext_rowOf fun channel => ?_⟩
  obtain ⟨r, hr, hchannel, heq⟩ := exists_row h channel
  rw [heq, rowOf_foldl hnodup' (hperm.mem_iff.mp hr) hchannel]

/-- Four usable rows for different channels are those of all channels. -/
theorem channels_perm_iff (hlength : rows.length = channelCount) :
    (rows.map CalibrationRow.channel).Perm (List.range channelCount) ↔
      (∀ r ∈ rows, r.channel < channelCount) ∧ (rows.map CalibrationRow.channel).Nodup := by
  constructor
  · intro hperm
    refine ⟨fun r hr => List.mem_range.mp (hperm.mem_iff.mp (List.mem_map_of_mem hr)), ?_⟩
    exact hperm.nodup_iff.mpr List.nodup_range
  · rintro ⟨hrange, hnodup⟩
    refine perm_range (by rw [List.length_map, hlength]) ?_ hnodup
    exact List.forall_mem_map.mpr hrange

/-- An accepted table can be calibrated with. -/
theorem usable_of_ofRows (h : ofRows rows = .ok t) : t.preset.Usable := by
  have hrow : ∀ channel, (t.rowOf channel).Usable := by
    intro channel
    obtain ⟨r, hr, -, heq⟩ := exists_row h channel
    exact heq ▸ (ofRows_eq_ok_iff.mp h).2.1 r hr
  constructor
  · rintro n ⟨⟩
  · rintro row ⟨⟩ x hx
    obtain ⟨i, hi, rfl⟩ := Vector.getElem_of_mem hx
    exact (hrow ⟨i, hi⟩).offset
  · rintro row ⟨⟩ x hx
    obtain ⟨i, hi, rfl⟩ := Vector.getElem_of_mem hx
    exact (hrow ⟨i, hi⟩).gain
  · rintro row ⟨⟩ x hx
    obtain ⟨i, hi, rfl⟩ := Vector.getElem_of_mem hx
    exact (hrow ⟨i, hi⟩).transmission

/-- **A table is accepted exactly if it is complete**, holds the rows of its channels in whatever
order they come, and is refused for its first fault. -/
theorem complete_iff_accepted (rows : List CalibrationRow) :
    ((∃ t, ofRows rows = .ok t) ↔
      rows.length = channelCount ∧
      (rows.map CalibrationRow.channel).Perm (List.range channelCount) ∧
      ∀ r ∈ rows, r.offset.isFinite = true ∧ (r.gain.isFinite = true ∧ (r.gain == 0.0) = false) ∧
        (r.transmission.isFinite = true ∧ (r.transmission == 0.0) = false)) ∧
    (∀ t, ofRows rows = .ok t → ∀ channel : Fin channelCount,
      ∃ r ∈ rows, r.channel = channel ∧ (∀ r' ∈ rows, r'.channel = channel → r' = r) ∧
        t.offsets[channel] = r.offset ∧ t.gains[channel] = r.gain ∧
        t.transmissions[channel] = r.transmission) ∧
    (∀ rows' t, rows.Perm rows' → (ofRows rows = .ok t ↔ ofRows rows' = .ok t)) ∧
    ∀ problem, ofRows rows = .error problem ↔
      rows.length ≠ channelCount ∧ problem = .rowCount rows.length ∨
      rows.length = channelCount ∧ ∃ before r after, rows = before ++ r :: after ∧
        (∀ b ∈ before, b.Usable) ∧ (before.map CalibrationRow.channel).Nodup ∧
        r.Fault (before.map CalibrationRow.channel) problem := by
  refine ⟨?_, fun t h channel => ?_, fun rows' t hperm => ⟨ofRows_perm hperm, ofRows_perm hperm.symm⟩,
    fun problem => ofRows_eq_error_iff⟩
  · simp only [ofRows_eq_ok_iff, exists_and_left, exists_eq', and_true]
    refine and_congr_right fun hlength => ?_
    rw [channels_perm_iff hlength]
    constructor
    · rintro ⟨husable, hnodup⟩
      exact ⟨⟨fun r hr => (husable r hr).channel, hnodup⟩, fun r hr =>
        ⟨(husable r hr).offset, (husable r hr).gain, (husable r hr).transmission⟩⟩
    · rintro ⟨⟨hrange, hnodup⟩, hvalues⟩
      exact ⟨fun r hr => ⟨hrange r hr, (hvalues r hr).1, (hvalues r hr).2.1, (hvalues r hr).2.2⟩,
        hnodup⟩
  · obtain ⟨r, hr, hchannel, heq⟩ := exists_row h channel
    have hunique : ∀ r' ∈ rows, r'.channel = channel → r' = r := by
      obtain ⟨-, -, hnodup, rfl⟩ := ofRows_eq_ok_iff.mp h
      exact fun r' hr' hchannel' => (rowOf_foldl hnodup hr' hchannel').symm.trans heq
    subst heq
    exact ⟨_, hr, hchannel, hunique, rfl, rfl, rfl⟩

end CalibrationTable

end QuadDaq

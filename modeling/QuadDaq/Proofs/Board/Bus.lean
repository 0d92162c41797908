import Mathlib
import QuadDaq.Board.Bus

/-!
# Where the bits of a sample come from

**The bus loses no level and uses none twice** (`decode_bijective_by_layout`). Eight pulses on
eight lines are 64 levels, and four words of 16 bits are 64 bits: each bit is the level of one
line at one pulse (`slotOf`), and each level is one bit (`carried`).

Everything is read off two facts about single bits, one on a byte (`testBit_byteOfLevels`) and one
on a word (`testBit_word`). Both are folds over the eight indices, of which only one counts.
-/

namespace QuadDaq.Board.Bus

/-- What the lines show at eight consecutive pulses. -/
abbrev Pulses := Vector Levels 8

/-- The chunk for the levels at eight pulses. -/
def assemble (pulses : Pulses) : Chunk := pulses.map byteOfLevels

/-! ### The layout -/

/-- A level on the bus, by its pulse and its line. -/
abbrev Slot := Fin 8 × Fin 8

/-- A bit of a sample, by its channel and its position in the word. -/
abbrev SampleBit := Fin 4 × Fin 16

/-- The pulse that brings the bit at a position. -/
def pulseOf (position : Fin 16) : Fin 8 := ⟨(15 - position) / 2, by omega⟩

/-- The line that brings the bit at a position. -/
def lineOf (channel : Fin 4) (position : Fin 16) : Fin 8 :=
  if position.val % 2 = 0 then ⟨channel, by omega⟩ else ⟨4 + channel, by omega⟩

/-- Where a bit of a sample travels. -/
def slotOf (b : SampleBit) : Slot := (pulseOf b.2, lineOf b.1 b.2)

/-- The bit that travels at a slot. -/
def carried (slot : Slot) : SampleBit :=
  (⟨slot.2 % 4, by omega⟩, ⟨14 - 2 * slot.1 + slot.2 / 4, by omega⟩)

/-- The level at a slot. -/
def levelAt (pulses : Pulses) (slot : Slot) : Bool := pulses[slot.1][slot.2]

/-- The bit of a sample. -/
def bitOf (words : PerChannel UInt16) (b : SampleBit) : Bool := words[b.1].toNat.testBit b.2

/-- The pulses with another level at one slot. -/
def change (pulses : Pulses) (slot : Slot) : Pulses :=
  pulses.set slot.1 (pulses[slot.1].set slot.2 (!levelAt pulses slot))

theorem eq_pulseOf_iff {pulse : Fin 8} {position : Fin 16} :
    pulse = pulseOf position ↔ pulse.val = (15 - position.val) / 2 :=
  Fin.ext_iff

theorem carried_slotOf (b : SampleBit) : carried (slotOf b) = b := by
  obtain ⟨channel, position⟩ := b
  simp only [carried, slotOf, pulseOf, lineOf]
  split <;> refine Prod.ext (Fin.ext ?_) (Fin.ext ?_) <;> grind

theorem slotOf_carried (slot : Slot) : slotOf (carried slot) = slot := by
  obtain ⟨pulse, line⟩ := slot
  simp only [carried, slotOf, pulseOf, lineOf]
  refine Prod.ext (Fin.ext ?_) (Fin.ext ?_) <;> grind

theorem slotOf_bijective : Function.Bijective slotOf :=
  Function.bijective_iff_has_inverse.mpr ⟨carried, carried_slotOf, slotOf_carried⟩

/-! ### Single bits -/

/-- A bit of a disjunction is one of its parts' bits. -/
theorem testBit_foldl_or {W α : Type} [OrOp W] {toNat : W → Nat}
    (hor : ∀ a b, toNat (a ||| b) = toNat a ||| toNat b) (f : α → W) (l : List α) (a : W)
    (i : Nat) :
    (toNat (l.foldl (fun acc x => acc ||| f x) a)).testBit i =
      ((toNat a).testBit i || l.any fun x => (toNat (f x)).testBit i) := by
  induction l generalizing a with
  | nil => simp
  | cons x rest ih => rw [List.foldl_cons, ih, hor, Nat.testBit_or, List.any_cons, Bool.or_assoc]

/-- Of all indices only one counts. -/
theorem any_finRange_eq {n : Nat} {p : Fin n → Bool} (i : Fin n) (h : ∀ j, p j = true → j = i) :
    (List.finRange n).any p = p i := by
  rw [Bool.eq_iff_iff, List.any_eq_true]
  constructor
  · rintro ⟨j, -, hj⟩
    exact h j hj ▸ hj
  · exact fun hi => ⟨i, List.mem_finRange i, hi⟩

/-- Numbers of the same width are equal if their bits are. -/
theorem eq_of_testBit {w m n : Nat} (hm : m < 2 ^ w) (hn : n < 2 ^ w)
    (h : ∀ i < w, m.testBit i = n.testBit i) : m = n := by
  refine Nat.eq_of_testBit_eq fun i => ?_
  by_cases hi : i < w
  · exact h i hi
  · have hpow : 2 ^ w ≤ 2 ^ i := Nat.pow_le_pow_right Nat.two_pos (Nat.le_of_not_lt hi)
    rw [Nat.testBit_lt_two_pow (Nat.lt_of_lt_of_le hm hpow),
      Nat.testBit_lt_two_pow (Nat.lt_of_lt_of_le hn hpow)]

/-- Line 0 is the highest bit of a byte. -/
theorem testBit_byteOfLevels (levels : Levels) (line : Fin 8) :
    (byteOfLevels levels).toNat.testBit (7 - line) = levels.get line := by
  have hmask : ∀ i : Fin 8, (1 <<< (7 - i.val).toUInt8 : UInt8).toNat = 2 ^ (7 - i.val) := by decide
  have hbit : ∀ i : Fin 8,
      (if levels[i] then 1 <<< (7 - i.val).toUInt8 else 0 : UInt8).toNat.testBit (7 - line) =
        (levels[i] && decide (i = line)) := by
    intro i
    cases levels[i] with
    | false => simp
    | true =>
        rw [if_pos rfl, hmask, Nat.testBit_two_pow, Bool.true_and]
        exact decide_eq_decide.mpr (by omega)
  rw [byteOfLevels, testBit_foldl_or UInt8.toNat_or, any_finRange_eq line]
  · rw [hbit, decide_eq_true rfl, Bool.and_true, UInt8.toNat_zero, Nat.zero_testBit,
      Bool.false_or]
    rfl
  · intro i hi
    rw [hbit, Bool.and_eq_true] at hi
    exact of_decide_eq_true hi.2

theorem toNat_bit (byte : UInt8) {position : Nat} (h : position < 8) :
    (bit byte position).toNat = (byte.toNat.testBit position).toNat := by
  have hamount : position.toUInt8.toNat % 8 = position := by
    rw [UInt8.toNat_ofNat']
    omega
  rw [bit, UInt8.toNat_toUInt16, UInt8.toNat_and, UInt8.toNat_shiftRight, hamount,
    Nat.toNat_testBit, ← Nat.shiftRight_eq_div_pow]
  exact Nat.and_one_is_mod _

/-- A bit of a byte, moved up to a position of a word, is all that is there. -/
theorem testBit_bit_shiftLeft (byte : UInt8) {position shift i : Nat} (hposition : position < 8)
    (hshift : shift < 16) (hi : i < 16) :
    (bit byte position <<< shift.toUInt16).toNat.testBit i =
      (decide (i = shift) && byte.toNat.testBit position) := by
  have hamount : shift.toUInt16.toNat % 16 = shift := by
    rw [UInt16.toNat_ofNat']
    omega
  rw [UInt16.toNat_shiftLeft, hamount, toNat_bit byte hposition, Nat.testBit_mod_two_pow,
    Nat.testBit_shiftLeft]
  cases byte.toNat.testBit position with
  | false => simp
  | true =>
      rw [Bool.toNat_true, decide_eq_true hi, Bool.true_and, Bool.and_true, Bool.eq_iff_iff]
      simp only [Bool.and_eq_true, decide_eq_true_eq, Nat.testBit_one_eq_true_iff_self_eq_zero]
      omega

/-- What a pulse adds to a word is the level of one line for each of two bits. -/
theorem testBit_contribution (byte : UInt8) (channel : Fin 4) (pulse : Fin 8) (position : Fin 16) :
    (contribution channel pulse byte).toNat.testBit position =
      (decide (pulse = pulseOf position) && byte.toNat.testBit (7 - lineOf channel position)) := by
  rw [contribution, UInt16.toNat_or, Nat.testBit_or,
    testBit_bit_shiftLeft byte (by omega) (by omega) position.isLt,
    testBit_bit_shiftLeft byte (by omega) (by omega) position.isLt]
  by_cases heven : position.val % 2 = 0
  · have hupper : ¬position.val = 15 - 2 * pulse := by omega
    have hlower : (position.val = 14 - 2 * pulse) ↔ pulse = pulseOf position := by
      rw [eq_pulseOf_iff]
      omega
    have hline : 7 - (lineOf channel position).val = 7 - channel := by rw [lineOf, if_pos heven]
    rw [decide_eq_false hupper, decide_eq_decide.mpr hlower, hline, Bool.false_and, Bool.false_or]
  · have hlower : ¬position.val = 14 - 2 * pulse := by omega
    have hupper : (position.val = 15 - 2 * pulse) ↔ pulse = pulseOf position := by
      rw [eq_pulseOf_iff]
      omega
    have hline : 7 - (lineOf channel position).val = 3 - channel := by
      rw [lineOf, if_neg heven]
      simp only
      omega
    rw [decide_eq_false hlower, decide_eq_decide.mpr hupper, hline, Bool.false_and, Bool.or_false]

/-- A bit of a word is the level of one line at one pulse. -/
theorem testBit_word (chunk : Chunk) (channel : Fin 4) (position : Fin 16) :
    (word chunk channel).toNat.testBit position =
      chunk[pulseOf position].toNat.testBit (7 - lineOf channel position) := by
  rw [word, testBit_foldl_or UInt16.toNat_or, any_finRange_eq (pulseOf position)]
  · rw [testBit_contribution, decide_eq_true rfl, Bool.true_and]
    simp
  · intro i hi
    rw [testBit_contribution, Bool.and_eq_true] at hi
    exact of_decide_eq_true hi.1

/-! ### Whole chunks -/

theorem byteOfLevels_bijective : Function.Bijective byteOfLevels := by
  constructor
  · intro a b h
    refine Vector.ext fun i hi => ?_
    have hbit := testBit_byteOfLevels a ⟨i, hi⟩
    rw [h, testBit_byteOfLevels] at hbit
    exact hbit.symm
  · intro byte
    refine ⟨Vector.ofFn fun line => byte.toNat.testBit (7 - line), ?_⟩
    refine UInt8.toNat_inj.mp (eq_of_testBit (UInt8.toNat_lt _) (UInt8.toNat_lt _) fun i hi => ?_)
    have hline : 7 - (7 - i) = i := by omega
    have hbit := testBit_byteOfLevels (Vector.ofFn fun line => byte.toNat.testBit (7 - line))
      ⟨7 - i, by omega⟩
    rw [Vector.get_ofFn, hline] at hbit
    exact hbit

theorem assemble_bijective : Function.Bijective assemble := by
  constructor
  · intro a b h
    refine Vector.ext fun i hi => byteOfLevels_bijective.injective ?_
    have hbyte : (assemble a)[i] = (assemble b)[i] := by rw [h]
    rwa [assemble, assemble, Vector.getElem_map, Vector.getElem_map] at hbyte
  · intro chunk
    choose levels hlevels using byteOfLevels_bijective.surjective
    refine ⟨chunk.map levels, Vector.ext fun i hi => ?_⟩
    rw [assemble, Vector.getElem_map, Vector.getElem_map, hlevels]

theorem bitOf_decode (pulses : Pulses) (b : SampleBit) :
    bitOf (decode (assemble pulses)) b = levelAt pulses (slotOf b) := by
  simp only [bitOf, decode, Fin.getElem_fin, Vector.getElem_ofFn]
  rw [testBit_word, assemble]
  simp only [Fin.getElem_fin, Vector.getElem_map]
  exact testBit_byteOfLevels _ _

theorem eq_of_bitOf {words words' : PerChannel UInt16} (h : ∀ b, bitOf words b = bitOf words' b) :
    words = words' := by
  refine Vector.ext fun channel hchannel => UInt16.toNat_inj.mp ?_
  refine eq_of_testBit (UInt16.toNat_lt _) (UInt16.toNat_lt _) fun position hposition => ?_
  exact h (⟨channel, hchannel⟩, ⟨position, hposition⟩)

theorem decode_assemble_bijective : Function.Bijective (decode ∘ assemble) := by
  constructor
  · intro a b h
    have hlevel : ∀ slot, levelAt a slot = levelAt b slot := by
      intro slot
      rw [← slotOf_carried slot, ← bitOf_decode, ← bitOf_decode]
      exact congrArg (bitOf · _) h
    exact Vector.ext fun pulse hpulse => Vector.ext fun line hline =>
      hlevel (⟨pulse, hpulse⟩, ⟨line, hline⟩)
  · intro words
    refine ⟨Vector.ofFn fun pulse => Vector.ofFn fun line => bitOf words (carried (pulse, line)),
      eq_of_bitOf fun b => ?_⟩
    rw [Function.comp_apply, bitOf_decode]
    simp only [levelAt, Fin.getElem_fin, Vector.getElem_ofFn]
    exact congrArg (bitOf words) (carried_slotOf b)

theorem decode_bijective : Function.Bijective decode :=
  (Function.Bijective.of_comp_iff decode assemble_bijective).mp decode_assemble_bijective

theorem levelAt_change (pulses : Pulses) (slot slot' : Slot) :
    levelAt (change pulses slot) slot' =
      if slot' = slot then !levelAt pulses slot else levelAt pulses slot' := by
  obtain ⟨pulse, line⟩ := slot
  obtain ⟨pulse', line'⟩ := slot'
  simp only [levelAt, change, Fin.getElem_fin, Vector.getElem_set, Prod.mk.injEq, Fin.ext_iff]
  by_cases hpulse : pulse.val = pulse'.val
  · by_cases hline : line.val = line'.val
    · simp [hpulse, hline]
    · simp [hpulse, hline, Ne.symm hline]
  · simp [hpulse, Ne.symm hpulse]

/-- Another level at a slot is another value of the bit that it carries. -/
theorem bitOf_change_ne_iff (pulses : Pulses) (slot : Slot) (b : SampleBit) :
    bitOf (decode (assemble (change pulses slot))) b ≠ bitOf (decode (assemble pulses)) b ↔
      b = carried slot := by
  rw [bitOf_decode, bitOf_decode, levelAt_change]
  constructor
  · intro h
    by_cases hslot : slotOf b = slot
    · rw [← hslot, carried_slotOf]
    · rw [if_neg hslot] at h
      exact absurd rfl h
  · rintro rfl
    rw [slotOf_carried, if_pos rfl]
    exact Bool.not_ne_self _

/-- **The words of a chunk are its levels in another order.** Each bit is one level of one line, no
level is left out or used twice, every four words come from one chunk only, and another level
makes one other bit. -/
theorem decode_bijective_by_layout :
    (∀ (pulses : Pulses) (channel : Fin 4) (position : Fin 16),
      (decode (assemble pulses))[channel].toNat.testBit position =
        pulses[pulseOf position][lineOf channel position]) ∧
    Function.Bijective slotOf ∧ Function.Bijective assemble ∧ Function.Bijective decode ∧
    ∀ pulses slot, ∃! b,
      bitOf (decode (assemble (change pulses slot))) b ≠ bitOf (decode (assemble pulses)) b :=
  ⟨fun pulses channel position => bitOf_decode pulses (channel, position), slotOf_bijective,
    assemble_bijective, decode_bijective,
    fun pulses slot => ⟨carried slot, (bitOf_change_ne_iff pulses slot _).mpr rfl,
      fun b => (bitOf_change_ne_iff pulses slot b).mp⟩⟩

end QuadDaq.Board.Bus

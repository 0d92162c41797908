import Mathlib
import QuadDaq.Cli.Stream
import QuadDaq.Proofs.Decimal.Whole

/-!
# Doubles as numbers of seconds

**A double is a duration exactly if it is finite, not negative and less than `2 ^ 64`**
(`Duration.ofSeconds?_isSome_iff`). Rounding to nanoseconds never carries a smaller double over the
limit: doubles that have a fraction are less than `2 ^ 53`.

Comparisons of doubles look at the unpacked form. That of a finite double has the magnitude that
its bits encode (`unpack_of_isFinite`), so to be greater than zero means what it does among numbers
(`zero_lt_iff`).
-/

namespace QuadDaq.Decimal

open Float.Model (Format UnpackedFloat)
open Float.Model.UnpackedFloat (Sign unpackSign unpackExponent unpackMantissa)

/-! ### Unpacking -/

theorem toNat_unpackMantissa (bits : UInt64) :
    (@unpackMantissa .binary64 bits.toBitVec).toNat = fractionBits bits := by
  rw [fractionBits_eq, unpackMantissa, BitVec.toNat_cast, BitVec.extractLsb_toNat]
  rfl

theorem toNat_unpackExponent (bits : UInt64) :
    (@unpackExponent .binary64 bits.toBitVec).toNat = exponentBits bits := by
  rw [exponentBits_eq, unpackExponent, BitVec.toNat_cast, BitVec.extractLsb_toNat,
    Nat.shiftRight_eq_div_pow]
  rfl

theorem ofBitVec_unpackSign (x : Float) :
    Sign.ofBitVec (@unpackSign .binary64 x.toBits.toBitVec) = signOf x := by
  have hlt := x.toBits.toNat_lt
  have hsign :
      (@unpackSign .binary64 x.toBits.toBitVec).toNat = x.toBits.toNat / 2 ^ 63 := by
    rw [unpackSign, BitVec.toNat_cast, BitVec.extractLsb_toNat, Nat.shiftRight_eq_div_pow]
    change x.toBits.toNat / 2 ^ 63 % 2 = _
    omega
  rw [signOf, isNegative_eq, ← hsign, Sign.ofBitVec]
  rcases BitVec.eq_zero_or_eq_one (@unpackSign .binary64 x.toBits.toBitVec) with h | h <;>
    rw [h] <;> rfl

theorem finite_congr (s : Sign) {m m' : Nat} {e e' : Int} {hpos : 0 < m} {hpos' : 0 < m'}
    (hm : m = m') (he : e = e') :
    UnpackedFloat.finite s m e hpos = UnpackedFloat.finite s m' e' hpos' := by
  subst hm he
  rfl

/-- A zero has no mantissa. Any other finite double is unpacked to its sign and its magnitude. -/
theorem unpack_of_isFinite {x : Float} (h : x.isFinite = true) :
    (x.toModel.unpack = .zero (signOf x) ∧ (Dyadic.ofBits x.toBits).mantissa = 0) ∨
    ∃ hpos, x.toModel.unpack = .finite (signOf x) (Dyadic.ofBits x.toBits).mantissa
      (Dyadic.ofBits x.toBits).exponent hpos := by
  have hfraction := toNat_unpackMantissa x.toBits
  have hfield := toNat_unpackExponent x.toBits
  have hunpack : x.toModel.unpack = UnpackedFloat.unpack .binary64 x.toBits.toBitVec := rfl
  change UnpackedFloat.isFinite x.toModel.unpack = true at h
  rw [hunpack, UnpackedFloat.unpack] at h ⊢
  simp only [ofBitVec_unpackSign] at h ⊢
  by_cases hall : @unpackExponent .binary64 x.toBits.toBitVec = -1#11
  · -- This exponent is that of the infinities and of what is not a number.
    rw [if_pos hall] at h
    split at h <;> cases h
  rw [if_neg hall]
  by_cases hnone : @unpackExponent .binary64 x.toBits.toBitVec = 0#11
  · have hexponent : exponentBits x.toBits = 0 := hfield.symm.trans (by rw [hnone]; rfl)
    rw [if_pos hnone, Dyadic.ofBits_of_eq_zero hexponent]
    split
    · next hzero =>
        refine .inl ⟨rfl, hfraction.symm.trans ?_⟩
        rw [hzero]
        rfl
    · next hzero =>
        have hpos : 0 < fractionBits x.toBits := by
          rw [← hfraction, Nat.pos_iff_ne_zero]
          exact fun heq => hzero (BitVec.eq_of_toNat_eq heq)
        refine .inr ⟨hpos, finite_congr _ hfraction ?_⟩
        rw [hnone]
        rfl
  · have hexponent : exponentBits x.toBits ≠ 0 := fun heq =>
      hnone (BitVec.eq_of_toNat_eq (hfield.trans heq))
    rw [if_neg hnone, Dyadic.ofBits_of_ne_zero hexponent]
    refine .inr ⟨Nat.add_pos_right _ (Nat.two_pow_pos 52), finite_congr _ ?_ ?_⟩
    · rw [toNat_one_append, hfraction, Nat.add_comm]
    · rw [hfield]
      rfl

/-! ### Comparisons with zero -/

theorem Dyadic.value_pos_iff {v : Dyadic} : 0 < v.value ↔ 0 < v.mantissa := by
  have hpow : (0 : ℚ) < 2 ^ v.exponent := zpow_pos (by norm_num) _
  rw [value, mul_pos_iff_of_pos_right hpow, Nat.cast_pos]

theorem value_pos_iff {x : Float} :
    0 < value x ↔ isNegative x = false ∧ 0 < (Dyadic.ofBits x.toBits).mantissa := by
  have hnonneg := (Dyadic.ofBits x.toBits).value_nonneg
  rw [← Dyadic.value_pos_iff, value]
  cases isNegative x with
  | false => simp
  | true => simpa using hnonneg

/-- Among finite doubles the order is that of the numbers they stand for, as far as zero goes. -/
theorem zero_lt_iff {x : Float} (h : x.isFinite = true) : 0.0 < x ↔ 0 < value x := by
  have hlt : 0.0 < x ↔ UnpackedFloat.lt (.zero .positive) x.toModel.unpack = true :=
    decide_eq_true_iff
  rw [hlt, value_pos_iff]
  rcases unpack_of_isFinite h with ⟨hunpack, hzero⟩ | ⟨hpos, hunpack⟩
  · rw [hunpack, hzero]
    simp [UnpackedFloat.lt, UnpackedFloat.compare]
  · rw [hunpack, signOf]
    cases isNegative x with
    | false => simpa [UnpackedFloat.lt, UnpackedFloat.compare] using hpos
    | true => simp [UnpackedFloat.lt, UnpackedFloat.compare]

theorem beq_zero_iff {x : Float} (h : x.isFinite = true) : (x == 0.0) = true ↔ value x = 0 := by
  constructor
  · intro hbeq
    change UnpackedFloat.beq x.toModel.unpack (.zero .positive) = true at hbeq
    rcases unpack_of_isFinite h with ⟨-, hzero⟩ | ⟨hpos, hunpack⟩
    · rw [value, Dyadic.value, hzero]
      simp
    · rw [hunpack, UnpackedFloat.beq] at hbeq
      cases hsign : signOf x <;> simp [UnpackedFloat.compare, hsign] at hbeq
  · intro hvalue
    rcases eq_zero_of_value hvalue with rfl | rfl <;> rfl

/-! ### Rounding to nanoseconds -/

theorem roundedQuotient_le (a b : Nat) : roundedQuotient a b ≤ a / b + 1 := by
  rw [roundedQuotient]
  exact (ite_eq_or_eq _ _ _).elim (fun h => h.trans_le (Nat.le_succ _)) Eq.le

theorem roundedQuotient_one (a : Nat) : roundedQuotient a 1 = a := by
  simp [roundedQuotient, Nat.mod_one]

theorem mantissa_lt (bits : UInt64) : (Dyadic.ofBits bits).mantissa < 2 ^ 53 := by
  have hfraction := fractionBits_lt bits
  by_cases hexponent : exponentBits bits = 0
  · rw [Dyadic.ofBits_of_eq_zero hexponent]
    exact hfraction.trans (by decide)
  · rw [Dyadic.ofBits_of_ne_zero hexponent]
    exact Nat.add_lt_add_right hfraction _

/-- Whether a magnitude is below a natural number, without denominators. -/
theorem Dyadic.value_lt_natCast_iff {v : Dyadic} {n : Nat} :
    v.value < n ↔ v.mantissa * 2 ^ v.exponent.toNat < n * 2 ^ (-v.exponent).toNat := by
  have hpos : (0 : ℚ) < 2 ^ (-v.exponent).toNat := by positivity
  rw [← mul_lt_mul_iff_left₀ hpos, v.value_mul_unit]
  exact_mod_cast Iff.rfl

/-- The nanoseconds of a magnitude are a duration if the magnitude is below the limit. -/
theorem Dyadic.scaled_le_longest_iff {v : Dyadic} (hlt : v.mantissa < 2 ^ 53) :
    v.scaled 9 ≤ Duration.longest ↔ v.value < (2 ^ 64 : Nat) := by
  have hlongest : ∀ n : Nat, n ≤ Duration.longest ↔ n < 2 ^ 64 * 10 ^ 9 :=
    fun _ => Nat.lt_succ_iff.symm
  rw [value_lt_natCast_iff, hlongest, scaled]
  simp only [Nat.pow_eq]
  by_cases hwhole : 0 ≤ v.exponent
  · have hunit : (-v.exponent).toNat = 0 := by omega
    rw [hunit, Nat.pow_zero, roundedQuotient_one, Nat.mul_right_comm, Nat.mul_one,
      Nat.mul_lt_mul_right (by decide)]
  · -- What is rounded here has a fraction, and is far below the limit.
    have hunit : v.exponent.toNat = 0 := by omega
    rw [hunit, Nat.pow_zero, Nat.mul_one, Nat.mul_one]
    have hpos : 0 < 2 ^ (-v.exponent).toNat := Nat.two_pow_pos _
    have hquotient := Nat.div_le_self (v.mantissa * 10 ^ 9) (2 ^ (-v.exponent).toNat)
    have hrounded := roundedQuotient_le (v.mantissa * 10 ^ 9) (2 ^ (-v.exponent).toNat)
    exact iff_of_true (by omega) (by omega)

end QuadDaq.Decimal

namespace QuadDaq

open Decimal

/-- The doubles that are numbers of seconds of a duration. -/
theorem Duration.ofSeconds?_isSome_iff {x : Float} :
    (ofSeconds? x).isSome = true ↔ x.isFinite = true ∧ 0 ≤ value x ∧ value x < (2 ^ 64 : Nat) := by
  have hmagnitude := Dyadic.scaled_le_longest_iff (mantissa_lt x.toBits)
  have hnonneg := (Dyadic.ofBits x.toBits).value_nonneg
  cases hfinite : x.isFinite with
  | false => simp [ofSeconds?, hfinite]
  | true =>
      cases hsign : isNegative x with
      | false =>
          have hvalue : value x = (Dyadic.ofBits x.toBits).value := by rw [value, hsign]; rfl
          rw [hvalue, and_iff_right rfl, and_iff_right hnonneg, ← hmagnitude]
          simp [ofSeconds?, hfinite, hsign]
      | true =>
          have hvalue : value x = -(Dyadic.ofBits x.toBits).value := by rw [value, hsign]; rfl
          have hbeq := beq_zero_iff hfinite
          by_cases hzero : value x = 0
          · -- Negative zero is no time at all.
            have hnone : (Dyadic.ofBits x.toBits).value = 0 := by linarith
            have hscaled := hmagnitude.mpr (by rw [hnone]; norm_num)
            simp [ofSeconds?, hfinite, bne, hbeq.mpr hzero, hscaled, hzero]
          · have hneg : ¬0 ≤ value x := fun h => hzero (le_antisymm (by linarith) h)
            simp [ofSeconds?, hfinite, hsign, bne, mt hbeq.mp hzero, hneg]

end QuadDaq

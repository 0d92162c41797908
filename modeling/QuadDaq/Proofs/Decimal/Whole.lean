import Mathlib
import QuadDaq.Decimal.Shortest

/-!
# Whole numbers among the doubles

**Every whole number below `2 ^ 53` in magnitude is a double, and an integer is converted to
it** (`ofInt_of_value`). A double is looked at in two ways here. Its bits hold a sign, an exponent
and a fraction, which give the number that it stands for (`value`). Arithmetic works on the
unpacked form `± m · 2 ^ e` instead. That of a whole number has a mantissa of 53 bits; packing
loses nothing of it (`unpack_pack`), and no arithmetic that ends with it rounds
(`roundWithAccuracy_exact`).
-/

namespace QuadDaq.Decimal

open Float.Model (Format UnpackedFloat totalExponent)
open Float.Model.UnpackedFloat (Sign ExtendedMantissa packComponents unpackSign
  shiftToTargetExponent shiftToExponent roundWithAccuracy decreaseExponent)

/-- The number that a magnitude is. -/
def Dyadic.value (v : Dyadic) : ℚ := v.mantissa * 2 ^ v.exponent

/-- The number that a finite double stands for. -/
def value (x : Float) : ℚ :=
  if isNegative x then -(Dyadic.ofBits x.toBits).value else (Dyadic.ofBits x.toBits).value

/-! ### Magnitudes without a fraction -/

/-- A magnitude and its unit, a fraction of one, are natural numbers if they are multiplied. -/
theorem Dyadic.value_mul_unit (v : Dyadic) :
    v.value * 2 ^ (-v.exponent).toNat = v.mantissa * 2 ^ v.exponent.toNat := by
  rw [value, mul_assoc, ← zpow_natCast, ← zpow_natCast, ← zpow_add₀ two_ne_zero]
  congr 2
  omega

/-- Whether a magnitude is a natural number, without denominators. -/
theorem Dyadic.value_eq_natCast_iff {v : Dyadic} {n : Nat} :
    v.value = n ↔ v.mantissa * 2 ^ v.exponent.toNat = n * 2 ^ (-v.exponent).toNat := by
  have hpos : (0 : ℚ) < 2 ^ (-v.exponent).toNat := by positivity
  rw [← mul_left_inj' hpos.ne', v.value_mul_unit]
  exact_mod_cast Iff.rfl

theorem Dyadic.whole?_eq_some_iff {v : Dyadic} {n : Nat} : v.whole? = some n ↔ v.value = n := by
  have hpos : 0 < 2 ^ (-v.exponent).toNat := Nat.two_pow_pos _
  rw [value_eq_natCast_iff, whole?]
  simp only [Nat.pow_eq]
  constructor
  · intro h
    split at h
    · next hmod =>
        cases h
        exact (Nat.div_mul_cancel (Nat.dvd_of_mod_eq_zero hmod)).symm
    · cases h
  · intro h
    rw [h, Nat.mul_mod_left, if_pos rfl, Nat.mul_div_cancel _ hpos]

theorem Dyadic.value_nonneg (v : Dyadic) : 0 ≤ v.value :=
  mul_nonneg (Nat.cast_nonneg _) (zpow_nonneg (by norm_num) _)

/-- A double stands for an integer if its magnitude is that of the integer, and so is its sign. -/
theorem value_eq_intCast_iff {x : Float} {n : Int} :
    value x = n ↔ (Dyadic.ofBits x.toBits).value = n.natAbs ∧
      n = if isNegative x then -(n.natAbs : Int) else n.natAbs := by
  have hnonneg := (Dyadic.ofBits x.toBits).value_nonneg
  have habs : ((n.natAbs : Int) : ℚ) = |(n : ℚ)| := by rw [Int.natCast_natAbs, Int.cast_abs]
  rw [Int.cast_natCast] at habs
  rw [value, habs]
  split
  · constructor
    · intro h
      have hneg : n ≤ 0 := by exact_mod_cast show (n : ℚ) ≤ 0 by linarith
      exact ⟨by rw [← h, abs_neg, abs_of_nonneg hnonneg], by omega⟩
    · rintro ⟨h, hn⟩
      have hneg : (n : ℚ) ≤ 0 := by exact_mod_cast show n ≤ 0 by omega
      rw [h, abs_of_nonpos hneg, neg_neg]
  · constructor
    · intro h
      have hpos : 0 ≤ n := by exact_mod_cast show 0 ≤ (n : ℚ) by linarith
      exact ⟨by rw [← h, abs_of_nonneg hnonneg], by omega⟩
    · rintro ⟨h, hn⟩
      have hpos : 0 ≤ (n : ℚ) := by exact_mod_cast show 0 ≤ n by omega
      rw [h, abs_of_nonneg hpos]

/-! ### The bits of a double -/

/-- The fraction among the bits of a double. -/
def fractionBits (bits : UInt64) : Nat := (bits &&& 0xfffffffffffff).toNat

/-- The exponent among the bits of a double. -/
def exponentBits (bits : UInt64) : Nat := ((bits >>> 52) &&& 0x7ff).toNat

/-- The sign of a double. -/
def signOf (x : Float) : Sign := if isNegative x then .negative else .positive

theorem fractionBits_eq (bits : UInt64) : fractionBits bits = bits.toNat % 2 ^ 52 := by
  rw [fractionBits, UInt64.toNat_and]
  exact Nat.and_two_pow_sub_one_eq_mod _ 52

theorem fractionBits_lt (bits : UInt64) : fractionBits bits < 2 ^ 52 := by
  rw [fractionBits_eq]
  exact Nat.mod_lt _ (Nat.two_pow_pos 52)

theorem exponentBits_eq (bits : UInt64) : exponentBits bits = bits.toNat / 2 ^ 52 % 2 ^ 11 := by
  rw [exponentBits, UInt64.toNat_and, UInt64.toNat_shiftRight, ← Nat.shiftRight_eq_div_pow]
  exact Nat.and_two_pow_sub_one_eq_mod _ 11

/-- Without an exponent a double is subnormal. -/
theorem Dyadic.ofBits_of_eq_zero {bits : UInt64} (h : exponentBits bits = 0) :
    ofBits bits = ⟨fractionBits bits, -1074, false⟩ :=
  if_pos h

/-- With one its mantissa has a leading bit, which is not among its bits. -/
theorem Dyadic.ofBits_of_ne_zero {bits : UInt64} (h : exponentBits bits ≠ 0) :
    ofBits bits = ⟨fractionBits bits + 2 ^ 52, (exponentBits bits : Int) - 1075,
      fractionBits bits = 0 && 1 < exponentBits bits⟩ :=
  if_neg h

theorem isNegative_eq (x : Float) : isNegative x = (x.toBits.toNat / 2 ^ 63 == 1) := by
  rw [isNegative, ← Nat.shiftRight_eq_div_pow, Bool.eq_iff_iff, beq_iff_eq, beq_iff_eq,
    ← UInt64.toNat_inj, UInt64.toNat_shiftRight]
  rfl

/-- Sign, exponent and fraction are all that the bits hold. -/
theorem toNat_toBits (x : Float) :
    x.toBits.toNat = (signOf x).toBitVec.toNat * 2 ^ 63
      + exponentBits x.toBits * 2 ^ 52 + fractionBits x.toBits := by
  have hlt := x.toBits.toNat_lt
  rw [signOf, isNegative_eq, exponentBits_eq, fractionBits_eq]
  split
  · next h =>
      have h := beq_iff_eq.mp h
      change _ = 1 * 2 ^ 63 + _ + _
      omega
  · next h =>
      have h := mt beq_iff_eq.mpr h
      change _ = 0 * 2 ^ 63 + _ + _
      omega

theorem eq_of_toNat_toBits {x y : Float} (h : x.toBits.toNat = y.toBits.toNat) : x = y := by
  obtain ⟨⟨bits, _⟩⟩ := x
  obtain ⟨⟨bits', _⟩⟩ := y
  cases UInt64.toNat_inj.mp h
  rfl

/-- Zero is a double for each sign. -/
theorem eq_zero_of_value {x : Float} (h : value x = 0) : x = 0.0 ∨ x = -0.0 := by
  have hmagnitude := (value_eq_intCast_iff (n := 0).mp (by rw [h, Int.cast_zero])).1
  rw [Int.natAbs_zero, Dyadic.value_eq_natCast_iff, Nat.zero_mul, Nat.mul_eq_zero,
    or_iff_left (Nat.two_pow_pos _).ne'] at hmagnitude
  have hparts : exponentBits x.toBits = 0 ∧ fractionBits x.toBits = 0 := by
    by_cases hexponent : exponentBits x.toBits = 0
    · rw [Dyadic.ofBits_of_eq_zero hexponent] at hmagnitude
      exact ⟨hexponent, hmagnitude⟩
    · rw [Dyadic.ofBits_of_ne_zero hexponent] at hmagnitude
      exact absurd hmagnitude (Nat.succ_ne_zero _)
  have hbits := toNat_toBits x
  rw [hparts.1, hparts.2, signOf] at hbits
  split at hbits
  · exact .inr (eq_of_toNat_toBits hbits)
  · exact .inl (eq_of_toNat_toBits hbits)

/-- Both zeros stand for the number zero. -/
theorem value_zero : value 0.0 = 0 ∧ value (-0.0) = 0 := by
  have hvalue : ∀ {x : Float}, (Dyadic.ofBits x.toBits).mantissa = 0 → value x = (0 : Int) := by
    intro x h
    refine value_eq_intCast_iff.mpr ⟨?_, by simp⟩
    rw [Int.natAbs_zero, Dyadic.value_eq_natCast_iff, h, Nat.zero_mul, Nat.zero_mul]
  exact ⟨by rw [hvalue rfl, Int.cast_zero], by rw [hvalue rfl, Int.cast_zero]⟩

theorem beq_self_of_isFinite {x : Float} (h : x.isFinite = true) : (x == x) = true := by
  change UnpackedFloat.isFinite x.toModel.unpack = true at h
  change UnpackedFloat.beq x.toModel.unpack x.toModel.unpack = true
  cases hx : x.toModel.unpack with
  | notANumber =>
      rw [hx] at h
      cases h
  | infinity s =>
      rw [hx] at h
      cases h
  | zero s => cases s <;> rfl
  | finite s m e hpos =>
      have hcompare : (compare e e).then (compare m m) = .eq := by simp
      cases s with
      | negative =>
          change (some ((compare e e).then (compare m m)).swap == some .eq) = true
          rw [hcompare]
          rfl
      | positive =>
          change (some ((compare e e).then (compare m m)) == some .eq) = true
          rw [hcompare]
          rfl

/-! ### Normal numbers -/

theorem log2_mul_two_pow {n : Nat} (hpos : 0 < n) (k : Nat) : (n * 2 ^ k).log2 = n.log2 + k := by
  have hpow : 0 < 2 ^ k := Nat.two_pow_pos k
  rw [Nat.log2_eq_iff (Nat.mul_pos hpos hpow).ne', Nat.pow_add, Nat.add_right_comm, Nat.pow_add]
  exact ⟨Nat.mul_le_mul_right _ (Nat.log2_self_le hpos.ne'),
    (Nat.mul_lt_mul_right hpow).mpr Nat.lt_log2_self⟩

/-- A natural number with the zeros behind it that make it 53 bits long. -/
def mantissaOf (n : Nat) : Nat := n * 2 ^ (52 - n.log2)

theorem mantissaOf_pos {n : Nat} (hpos : 0 < n) : 0 < mantissaOf n :=
  Nat.mul_pos hpos (Nat.two_pow_pos _)

theorem log2_lt_of_lt {n : Nat} (hpos : 0 < n) (hlt : n < 2 ^ 53) : n.log2 < 53 :=
  (Nat.log2_lt hpos.ne').mpr hlt

theorem log2_mantissaOf {n : Nat} (hpos : 0 < n) (hlt : n < 2 ^ 53) :
    (mantissaOf n).log2 = 52 := by
  have hlog := log2_lt_of_lt hpos hlt
  rw [mantissaOf, log2_mul_two_pow hpos]
  omega

/-- The bits of a double that stands for a natural number. -/
theorem bits_of_value {bits : UInt64} {n : Nat} (hpos : 0 < n) (hlt : n < 2 ^ 53)
    (h : (Dyadic.ofBits bits).value = n) :
    exponentBits bits = n.log2 + 1023 ∧ fractionBits bits + 2 ^ 52 = mantissaOf n := by
  have hfraction := fractionBits_lt bits
  rw [Dyadic.value_eq_natCast_iff] at h
  by_cases hexponent : exponentBits bits = 0
  · -- Subnormal numbers are less than one.
    obtain ⟨k, hk⟩ : ∃ k, (-(-1074 : Int)).toNat = 52 + k := ⟨1022, rfl⟩
    have hscale : 0 < n * 2 ^ k := Nat.mul_pos hpos (Nat.two_pow_pos k)
    rw [Dyadic.ofBits_of_eq_zero hexponent, hk, Nat.pow_add, Nat.mul_left_comm] at h
    change fractionBits bits * 2 ^ 0 = _ at h
    omega
  · rw [Dyadic.ofBits_of_ne_zero hexponent] at h
    simp only at h
    -- With an exponent above zero the number would be too big.
    have hsmall : exponentBits bits ≤ 1075 := by
      by_contra hnot
      obtain ⟨k, hk⟩ : ∃ k, ((exponentBits bits : Int) - 1075).toNat = k + 1 :=
        Nat.exists_eq_succ_of_ne_zero (by omega)
      have hzero : (-((exponentBits bits : Int) - 1075)).toNat = 0 := by omega
      have hbig : 2 ^ 52 * 2 ^ 1 ≤ (fractionBits bits + 2 ^ 52) * 2 ^ (k + 1) :=
        Nat.mul_le_mul (Nat.le_add_left ..) (Nat.pow_le_pow_right Nat.two_pos (Nat.le_add_left 1 k))
      rw [← hk, h, hzero] at hbig
      omega
    obtain ⟨k, hk⟩ : ∃ k, exponentBits bits + k = 1075 := ⟨_, Nat.add_sub_of_le hsmall⟩
    have hzero : ((exponentBits bits : Int) - 1075).toNat = 0 := by omega
    have hshift : (-((exponentBits bits : Int) - 1075)).toNat = k := by omega
    rw [hzero, hshift, Nat.pow_zero, Nat.mul_one] at h
    have hlog : n.log2 + k = 52 := by
      rw [← log2_mul_two_pow hpos, ← h, Nat.log2_eq_iff (by omega)]
      omega
    have hwidth : 52 - n.log2 = k := by omega
    exact ⟨by omega, by rw [mantissaOf, hwidth, h]⟩

/-! ### Packing -/

/-- A normal number has its leading bit taken off when it is packed. -/
theorem pack_eq (s : Sign) {m : Nat} {e : Int} (hpos : 0 < m) (hm : m.log2 = 52)
    (hlow : -1074 ≤ e) (hhigh : e ≤ 971) :
    UnpackedFloat.pack .binary64 (.finite s m e hpos) =
      packComponents .binary64 s (BitVec.ofNat 11 (e + 1075).toNat) (BitVec.ofNat 52 m) := by
  have hexponent : (e + (Format.binary64.exponentBias : Int)
      + (Format.binary64.mantissaBitsWithoutImplicit : Int)).toNat = (e + 1075).toNat := by
    change (e + 1023 + 52).toNat = _
    omega
  rw [UnpackedFloat.pack, hexponent, if_neg (by change ¬2 ^ 11 ≤ _; omega), if_pos (by rw [hm]; rfl)]

theorem unpackSign_packComponents (s : Sign) (exponent : BitVec 11) (mantissa : BitVec 52) :
    Sign.ofBitVec (unpackSign (packComponents .binary64 s exponent mantissa)) = s := by
  rw [unpackSign, packComponents, BitVec.extractLsb, BitVec.extractLsb'_append_eq_of_le (by decide),
    BitVec.extractLsb'_append_eq_of_le (by decide)]
  cases s <;> rfl

/-- Unpacking puts the leading bit back. -/
theorem toNat_one_append (v : BitVec 52) : (1#1 ++ v).toNat = 2 ^ 52 + v.toNat := by
  rw [BitVec.toNat_append, ← Nat.shiftLeft_add_eq_or_of_lt v.isLt]
  rfl

/-- Packing loses nothing of a normal number. -/
theorem unpack_pack (s : Sign) {m : Nat} {e : Int} (hpos : 0 < m) (hm : m.log2 = 52)
    (hlow : -1074 ≤ e) (hhigh : e ≤ 971) :
    (Float.Model.pack (.finite s m e hpos)).unpack = .finite s m e hpos := by
  obtain ⟨hleast, hlt⟩ := (Nat.log2_eq_iff hpos.ne').mp hm
  have hfield : (BitVec.ofNat 11 (e + 1075).toNat).toNat = (e + 1075).toNat := by
    rw [BitVec.toNat_ofNat]
    omega
  have hmantissa : (1#1 ++ BitVec.ofNat 52 m).toNat = m := by
    rw [toNat_one_append, BitVec.toNat_ofNat]
    omega
  have hexponent : ((BitVec.ofNat 11 (e + 1075).toNat).toNat : Int)
      - ((Format.binary64.exponentBias : Int)
        + (Format.binary64.mantissaBitsWithoutImplicit : Int)) = e := by
    rw [hfield]
    change ((e + 1075).toNat : Int) - (1023 + 52) = e
    omega
  -- The exponents 2047 and 0 are for numbers that are not normal.
  have hfinite : BitVec.ofNat 11 (e + 1075).toNat ≠ -1#11 := by
    intro h
    have h : _ = 2047 := congrArg BitVec.toNat h
    omega
  have hnormal : BitVec.ofNat 11 (e + 1075).toNat ≠ 0#11 := by
    intro h
    have h : _ = 0 := congrArg BitVec.toNat h
    omega
  change UnpackedFloat.unpack .binary64 (UnpackedFloat.pack .binary64 (.finite s m e hpos)) = _
  rw [pack_eq s hpos hm hlow hhigh, UnpackedFloat.unpack]
  simp only [UnpackedFloat.unpackMantissa_packComponents,
    UnpackedFloat.unpackExponent_packComponents, unpackSign_packComponents]
  rw [if_neg hfinite, if_neg hnormal]
  simp only [hmantissa, hexponent]

theorem toNat_packComponents (s : Sign) (exponent : BitVec 11) (mantissa : BitVec 52) :
    (packComponents .binary64 s exponent mantissa).toNat =
      s.toBitVec.toNat * 2 ^ 63 + exponent.toNat * 2 ^ 52 + mantissa.toNat := by
  rw [packComponents, BitVec.toNat_append, BitVec.toNat_append,
    ← Nat.shiftLeft_add_eq_or_of_lt exponent.isLt, ← Nat.shiftLeft_add_eq_or_of_lt mantissa.isLt,
    Nat.shiftLeft_eq, Nat.shiftLeft_eq]
  omega

/-! ### Arithmetic that does not round -/

/-- Zeros are shifted out of a mantissa without a trace. -/
theorem shiftRight_exact (m k : Nat) :
    ExtendedMantissa.mk (m * 2 ^ k) false false >>> k = .mk m false false := by
  change Nat.repeat ExtendedMantissa.shiftRightOne k _ = _
  induction k generalizing m with
  | zero => rw [Nat.pow_zero, Nat.mul_one]; rfl
  | succ k ih =>
      rw [Nat.repeat, Nat.pow_succ', ← Nat.mul_assoc, ih]
      simp [ExtendedMantissa.shiftRightOne]

theorem shiftToTargetExponent_exact {m : Nat} (hpos : 0 < m) (hm : m.log2 = 52) (k : Nat) {e : Int}
    (hlow : -1074 ≤ e + k) :
    shiftToTargetExponent .binary64 (m * 2 ^ k) e .exact = (.mk m false false, e + k) := by
  have htarget : Format.binary64.targetExponent (totalExponent (m * 2 ^ k) e) = e + k := by
    rw [totalExponent, log2_mul_two_pow hpos, hm, Format.targetExponent]
    change max (((52 + k : Nat) : Int) + 1 + e - 53) (-1074) = e + k
    omega
  have hshift : (e + k - e).toNat = k := by omega
  rw [shiftToTargetExponent, htarget, shiftToExponent, hshift]
  exact congrArg (·, e + k) (shiftRight_exact m k)

/-- A result that has 53 bits, and zeros behind them, is not rounded. -/
theorem roundWithAccuracy_exact (s : Sign) {m : Nat} (hpos : 0 < m) (hm : m.log2 = 52) (k : Nat)
    {e : Int} (hlow : -1074 ≤ e + k) :
    roundWithAccuracy .binary64 s (m * 2 ^ k) e .exact = .finite s m (e + k) hpos := by
  -- Rounding shifts a second time, in case it has carried into a new bit.
  have hagain : shiftToTargetExponent .binary64 m (e + k) .exact = (.mk m false false, e + k) := by
    have h := shiftToTargetExponent_exact hpos hm 0 (e := e + k) (by omega)
    rwa [Nat.pow_zero, Nat.mul_one, Int.natCast_zero, Int.add_zero] at h
  rw [roundWithAccuracy, shiftToTargetExponent_exact hpos hm k hlow]
  change (match shiftToTargetExponent .binary64 m (e + k) .exact with
    | (em, e) => if h : em.mantissa = 0 then UnpackedFloat.zero s
      else UnpackedFloat.finite s em.mantissa e (Nat.pos_of_ne_zero h)) = _
  rw [hagain]
  exact dif_neg hpos.ne'

/-! ### Integers -/

/-- The unpacked form of a whole number. -/
def unpackedWhole (s : Sign) (n : Nat) (hpos : 0 < n) : UnpackedFloat :=
  .finite s (mantissaOf n) (n.log2 - 52) (mantissaOf_pos hpos)

variable {n : Nat}

theorem unpack_pack_whole (s : Sign) (hpos : 0 < n) (hlt : n < 2 ^ 53) :
    (Float.Model.pack (unpackedWhole s n hpos)).unpack = unpackedWhole s n hpos := by
  have hlog := log2_lt_of_lt hpos hlt
  exact unpack_pack s _ (log2_mantissaOf hpos hlt) (by omega) (by omega)

theorem unpackedOfNat_eq (hpos : 0 < n) (hlt : n < 2 ^ 53) :
    UnpackedFloat.ofNat .binary64 n = unpackedWhole .positive n hpos := by
  have hlog := log2_lt_of_lt hpos hlt
  have htarget : Format.binary64.targetExponent (totalExponent n 0) = n.log2 - 52 := by
    rw [totalExponent, Format.targetExponent]
    change max ((n.log2 : Int) + 1 + 0 - 53) (-1074) = n.log2 - 52
    omega
  have hshift : (0 - ((n.log2 : Int) - 52)).toNat = 52 - n.log2 := by omega
  have hexponent : (0 : Int) - (52 - n.log2 : Nat) = n.log2 - 52 := by omega
  have hcompare : compare (n : Int) 0 = .gt := compare_gt_iff_gt.mpr (Int.natCast_pos.mpr hpos)
  have hround := roundWithAccuracy_exact .positive (mantissaOf_pos hpos) (log2_mantissaOf hpos hlt) 0
    (e := n.log2 - 52) (by omega)
  rw [Nat.pow_zero, Nat.mul_one, Int.natCast_zero, Int.add_zero] at hround
  rw [UnpackedFloat.ofNat, UnpackedFloat.ofInt, UnpackedFloat.normalize, hcompare]
  change UnpackedFloat.round .binary64 .positive n 0 = _
  rw [UnpackedFloat.round, htarget, decreaseExponent, hshift, Nat.shiftLeft_eq, hexponent]
  exact hround

/-- A natural number is converted as a word, and multiplied by one. -/
theorem toModel_ofNat (hpos : 0 < n) (hlt : n < 2 ^ 53) :
    (Float.ofNat n).toModel = Float.Model.pack (unpackedWhole .positive n hpos) := by
  have hlog := log2_lt_of_lt hpos hlt
  have hword : n.toUInt64.toNat = n := Nat.mod_eq_of_lt (by omega)
  have hconverted :
      n.toUInt64.toFloat.toModel = Float.Model.pack (unpackedWhole .positive n hpos) := by
    change Float.Model.pack (UnpackedFloat.ofNat .binary64 n.toUInt64.toNat) = _
    rw [hword, unpackedOfNat_eq hpos hlt]
  have hone : Float.exactlyRepresentablePowersOfTen[0].toModel.unpack =
      .finite .positive (2 ^ 52) (-52) (by decide) := rfl
  have hproduct : (Float.ofNat n).toModel = Float.Model.pack (UnpackedFloat.mul .binary64
      n.toUInt64.toFloat.toModel.unpack
      Float.exactlyRepresentablePowersOfTen[0].toModel.unpack) := by
    change (Float.ofScientific n false 0).toModel = _
    rw [Float.ofScientific, dif_pos ⟨hlt, by decide⟩]
    rfl
  rw [hproduct, hone, hconverted, unpack_pack_whole _ hpos hlt]
  refine congrArg Float.Model.pack ((roundWithAccuracy_exact .positive (mantissaOf_pos hpos)
    (log2_mantissaOf hpos hlt) 52 (by omega)).trans ?_)
  rw [unpackedWhole]
  congr 1
  omega

theorem toModel_ofInt (s : Sign) (hpos : 0 < n) (hlt : n < 2 ^ 53) :
    (Float.ofInt (s.apply n)).toModel = Float.Model.pack (unpackedWhole s n hpos) := by
  cases s with
  | positive => exact toModel_ofNat hpos hlt
  | negative =>
      obtain ⟨k, rfl⟩ := Nat.exists_eq_succ_of_ne_zero hpos.ne'
      change Float.Model.pack (Float.ofNat (k + 1)).toModel.unpack.neg = _
      rw [toModel_ofNat hpos hlt, unpack_pack_whole _ hpos hlt]
      rfl

/-- The bits that the conversion gives. -/
theorem toNat_toBits_ofInt (s : Sign) (hpos : 0 < n) (hlt : n < 2 ^ 53) :
    (Float.ofInt (s.apply n)).toBits.toNat =
      s.toBitVec.toNat * 2 ^ 63 + (n.log2 + 1023) * 2 ^ 52 + (mantissaOf n - 2 ^ 52) := by
  have hlog := log2_lt_of_lt hpos hlt
  have hm := log2_mantissaOf hpos hlt
  obtain ⟨hleast, hupper⟩ := (Nat.log2_eq_iff (mantissaOf_pos hpos).ne').mp hm
  have hfield : ((n.log2 : Int) - 52 + 1075).toNat = n.log2 + 1023 := by omega
  rw [Float.toBits, toModel_ofInt s hpos hlt]
  change (UnpackedFloat.pack .binary64 (unpackedWhole s n hpos)).toNat = _
  rw [unpackedWhole, pack_eq s _ hm (by omega) (by omega), toNat_packComponents, hfield,
    BitVec.toNat_ofNat, BitVec.toNat_ofNat]
  omega

/-- **An integer below `2 ^ 53` is converted to the double that stands for it.** For zero there
are two of them. -/
theorem ofInt_of_value {x : Float} {n : Int} (hne : n ≠ 0) (hlt : n.natAbs < 2 ^ 53)
    (hx : value x = n) : Float.ofInt n = x := by
  obtain ⟨hmagnitude, hsign⟩ := value_eq_intCast_iff.mp hx
  have hpos : 0 < n.natAbs := Int.natAbs_pos.mpr hne
  obtain ⟨hexponent, hfraction⟩ := bits_of_value hpos hlt hmagnitude
  have hn : n = (signOf x).apply n.natAbs := by
    rw [signOf]
    split
    · next h => rwa [if_pos h] at hsign
    · next h => rwa [if_neg h] at hsign
  refine eq_of_toNat_toBits ?_
  rw [hn, toNat_toBits_ofInt _ hpos hlt, toNat_toBits x, hexponent, ← hfraction,
    Nat.add_sub_cancel]

end QuadDaq.Decimal

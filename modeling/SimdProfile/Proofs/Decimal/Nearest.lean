import Mathlib.Algebra.Order.Field.Power
import Mathlib.Data.Int.Log
import Mathlib.Data.Rat.Floor
import Mathlib.Tactic.FieldSimp
import Mathlib.Tactic.Positivity
import SimdProfile.Decimal.Binary64
import SimdProfile.Proofs.Decimal.Digits

/-!
# The nearest binary64 number

What a decimal number reads as depends on its sign and its size alone, not on how the size is spelled,
and it is finite. The size of a finite number, taken as a fraction, reads as that number.
-/

namespace SimdProfile

/-- An exponent is the greatest one below a positive number if the next is above it. -/
theorem intLog_eq {b : Nat} (hb : 1 < b) {r : ℚ} {e : Int} (positive : 0 < r) (le : (b : ℚ) ^ e ≤ r)
    (lt : r < (b : ℚ) ^ (e + 1)) : Int.log b r = e := by
  have := (Int.zpow_le_iff_le_log hb positive).mp le
  have := (Int.lt_zpow_iff_log_lt hb positive).mp lt
  omega

/-- A power as a fraction of powers of natural numbers. -/
theorem zpow_eq_div {b : Nat} (hb : b ≠ 0) (e : Int) :
    (b : ℚ) ^ e = (Nat.pow b e.toNat : Nat) / (Nat.pow b (-e).toNat : Nat) := by
  have nonzero : (b : ℚ) ≠ 0 := Nat.cast_ne_zero.mpr hb
  rcases le_total 0 e with above | below
  · obtain ⟨k, rfl⟩ := Int.eq_ofNat_of_zero_le above
    simp
  · obtain ⟨k, negated⟩ := Int.eq_ofNat_of_zero_le (Int.neg_nonneg.mpr below)
    obtain rfl : e = -(k : Int) := by omega
    simp

/-- Whether a power is at most a fraction is a question about natural numbers. -/
theorem zpow_le_div_iff {b num den : Nat} (hb : 0 < b) (hd : 0 < den) (e : Int) :
    (b : ℚ) ^ e ≤ num / den ↔ den * Nat.pow b e.toNat ≤ num * Nat.pow b (-e).toNat := by
  have denominator : (0 : ℚ) < (Nat.pow b (-e).toNat : Nat) := Nat.cast_pos.mpr (Nat.pow_pos hb)
  rw [zpow_eq_div hb.ne', div_le_div_iff₀ denominator (Nat.cast_pos.mpr hd), ← Nat.cast_mul,
    ← Nat.cast_mul, Nat.cast_le, Nat.mul_comm den]

/-- A fraction lies between the powers that bound its parts. -/
theorem div_bounds {b num den n d : Nat} (hb : 0 < b) (num_lower : b ^ n ≤ num)
    (num_upper : num < b ^ (n + 1)) (den_lower : b ^ d ≤ den) (den_upper : den < b ^ (d + 1)) :
    (b : ℚ) ^ ((n : Int) - d - 1) ≤ num / den ∧ (num : ℚ) / den < (b : ℚ) ^ ((n : Int) - d + 1) := by
  have nonzero : (b : ℚ) ≠ 0 := Nat.cast_ne_zero.mpr hb.ne'
  have positive : (0 : ℚ) < b := Nat.cast_pos.mpr hb
  have hd : (0 : ℚ) < den := Nat.cast_pos.mpr ((Nat.pow_pos hb).trans_le den_lower)
  have num_lower : (b : ℚ) ^ n ≤ num := by exact_mod_cast num_lower
  have num_upper : (num : ℚ) < (b : ℚ) ^ (n + 1) := by exact_mod_cast num_upper
  have den_lower : (b : ℚ) ^ d ≤ den := by exact_mod_cast den_lower
  have den_upper : (den : ℚ) < (b : ℚ) ^ (d + 1) := by exact_mod_cast den_upper
  constructor
  · calc (b : ℚ) ^ ((n : Int) - d - 1) = (b : ℚ) ^ n / (b : ℚ) ^ (d + 1) := by
          rw [← zpow_natCast, ← zpow_natCast, ← zpow_sub₀ nonzero]
          congr 1
          omega
      _ ≤ num / den := by gcongr
  · calc (num : ℚ) / den < (b : ℚ) ^ (n + 1) / (b : ℚ) ^ d := by gcongr
      _ = (b : ℚ) ^ ((n : Int) - d + 1) := by
          rw [← zpow_natCast, ← zpow_natCast, ← zpow_sub₀ nonzero]
          congr 1
          omega

namespace Decimal

/-- The number without its sign. -/
def size (x : Decimal) : ℚ :=
  x.coefficient * 10 ^ x.exponent

theorem size_eq_div (x : Decimal) : x.size =
    (x.coefficient * Nat.pow 10 x.exponent.toNat : Nat) / (Nat.pow 10 (-x.exponent).toNat : Nat) := by
  have power := zpow_eq_div (b := 10) (by decide) x.exponent
  rw [size, Nat.cast_mul, mul_div_assoc, ← power, Nat.cast_ofNat]

theorem size_pos {x : Decimal} (h : x.coefficient ≠ 0) : 0 < x.size := by
  have : 0 < (x.coefficient : ℚ) := Nat.cast_pos.mpr (Nat.pos_of_ne_zero h)
  unfold size
  positivity

theorem size_eq_zero_iff {x : Decimal} : x.size = 0 ↔ x.coefficient = 0 := by
  constructor
  · intro none
    by_contra h
    exact (size_pos h).ne' none
  · intro none
    rw [size, none, Nat.cast_zero, zero_mul]

/-- The digits of the coefficient count the powers of ten below the number. -/
theorem log_size {x : Decimal} (h : x.coefficient ≠ 0) :
    Int.log 10 x.size = x.exponent + (Digit.ofNat x.coefficient).length - 1 := by
  obtain ⟨d, ds, digits, -⟩ := Digit.head_ofNat_ne_zero h
  have lower := Digit.pow_le_of_ofNat h
  have upper := Digit.lt_pow_of_ofNat x.coefficient
  rw [digits, List.length_cons, Nat.add_sub_cancel] at lower
  rw [digits, List.length_cons] at upper ⊢
  have power : (0 : ℚ) < 10 ^ x.exponent := by positivity
  refine intLog_eq (by decide) (size_pos h) ?_ ?_
  · calc ((10 : Nat) : ℚ) ^ (x.exponent + ((ds.length + 1 : Nat) : Int) - 1)
        = ((10 ^ ds.length : Nat) : ℚ) * 10 ^ x.exponent := by
          rw [Nat.cast_pow, ← zpow_natCast, Nat.cast_ofNat, ← zpow_add₀ (by decide)]
          congr 1
          omega
      _ ≤ x.coefficient * 10 ^ x.exponent := by gcongr
  · calc x.size = x.coefficient * 10 ^ x.exponent := rfl
      _ < ((10 ^ (ds.length + 1) : Nat) : ℚ) * 10 ^ x.exponent := by gcongr
      _ = ((10 : Nat) : ℚ) ^ (x.exponent + ((ds.length + 1 : Nat) : Int) - 1 + 1) := by
          rw [Nat.cast_pow, ← zpow_natCast, Nat.cast_ofNat, ← zpow_add₀ (by decide)]
          congr 1
          omega

end Decimal

namespace Binary64

/-! ### Bits -/

theorem infinity_lt : infinity < Nat.pow 2 63 := by
  decide

section Magnitude

variable (negative : Bool) {m : Nat}

theorem toNat_bits_ofMagnitude (h : m < Nat.pow 2 63) :
    (ofMagnitude negative m).bits.toNat = m + if negative then Nat.pow 2 63 else 0 := by
  have size : Nat.pow 2 63 = 9223372036854775808 := rfl
  rw [ofMagnitude, UInt64.toNat_ofNat']
  split <;> omega

@[simp]
theorem magnitude_ofMagnitude (h : m < Nat.pow 2 63) : (ofMagnitude negative m).magnitude = m := by
  rw [magnitude, toNat_bits_ofMagnitude negative h]
  split
  · rw [Nat.add_mod_right, Nat.mod_eq_of_lt h]
  · rw [Nat.add_zero, Nat.mod_eq_of_lt h]

@[simp]
theorem isNegative_ofMagnitude (h : m < Nat.pow 2 63) :
    (ofMagnitude negative m).isNegative = negative := by
  rw [isNegative, toNat_bits_ofMagnitude negative h]
  cases negative
  · exact decide_eq_false (by simpa using h)
  · exact decide_eq_true (by simp)

/-- A number is its sign and its magnitude. -/
theorem ofMagnitude_magnitude (x : Binary64) : ofMagnitude x.isNegative x.magnitude = x := by
  have size : Nat.pow 2 63 = 9223372036854775808 := rfl
  have bound : x.bits.toNat < 2 ^ 64 := x.bits.toNat_lt
  have bits : x.bits.toNat % Nat.pow 2 63 + (if x.isNegative then Nat.pow 2 63 else 0) =
      x.bits.toNat := by
    simp only [isNegative, decide_eq_true_eq, size]
    split <;> omega
  rw [ofMagnitude, magnitude, bits, UInt64.ofNat_toNat]

theorem isFinite_ofMagnitude (h : m < infinity) : (ofMagnitude negative m).isFinite := by
  rw [isFinite, magnitude_ofMagnitude negative (h.trans infinity_lt)]
  exact decide_eq_true h

end Magnitude

/-! ### Rounding a fraction -/

section Fraction

variable {num den num' den' k : Nat}

theorem roundHalfEven_mul (hk : 0 < k) : roundHalfEven (num * k) (den * k) = roundHalfEven num den := by
  have twice : 2 * (num % den * k) = 2 * (num % den) * k := (Nat.mul_assoc ..).symm
  simp only [roundHalfEven, Nat.mul_div_mul_right _ _ hk, Nat.mul_mod_mul_right, twice,
    Nat.mul_lt_mul_right hk]

/-- A whole number is the nearest to itself. -/
theorem roundHalfEven_self (hk : 0 < k) : roundHalfEven (num * k) k = num := by
  simp [roundHalfEven, Nat.mul_div_cancel _ hk, hk]

theorem floorLog2_eq (hn : 0 < num) (hd : 0 < den) :
    floorLog2 num den = Int.log 2 ((num : ℚ) / den) := by
  have positive : (0 : ℚ) < num / den := div_pos (Nat.cast_pos.mpr hn) (Nat.cast_pos.mpr hd)
  obtain ⟨lower, upper⟩ := div_bounds (by decide) (Nat.log2_self_le hn.ne') Nat.lt_log2_self
    (Nat.log2_self_le hd.ne') Nat.lt_log2_self
  simp only [floorLog2]
  split
  · next test =>
    exact (intLog_eq (by decide) positive ((zpow_le_div_iff (by decide) hd _).mpr test) upper).symm
  · next test =>
    rw [← zpow_le_div_iff (by decide) hd, not_le] at test
    exact (intLog_eq (by decide) positive lower (by rwa [Int.sub_add_cancel])).symm

theorem floorLog2_mul (hn : 0 < num) (hd : 0 < den) (hk : 0 < k) :
    floorLog2 (num * k) (den * k) = floorLog2 num den := by
  have nonzero : (k : ℚ) ≠ 0 := Nat.cast_ne_zero.mpr hk.ne'
  rw [floorLog2_eq (Nat.mul_pos hn hk) (Nat.mul_pos hd hk), floorLog2_eq hn hd, Nat.cast_mul,
    Nat.cast_mul, mul_div_mul_right _ _ nonzero]

theorem nearest?_mul (hn : 0 < num) (hd : 0 < den) (hk : 0 < k) :
    nearest? (num * k) (den * k) = nearest? num den := by
  simp only [nearest?, floorLog2_mul hn hd hk, Nat.mul_right_comm _ k, roundHalfEven_mul hk]

/-- What a fraction rounds to depends on its value alone. -/
theorem nearest?_congr (hn : 0 < num) (hd : 0 < den) (hn' : 0 < num') (hd' : 0 < den')
    (same : num * den' = num' * den) : nearest? num den = nearest? num' den' := by
  calc nearest? num den = nearest? (num * den') (den * den') := (nearest?_mul hn hd hd').symm
    _ = nearest? (num' * den) (den' * den) := by rw [same, Nat.mul_comm den]
    _ = nearest? num' den' := nearest?_mul hn' hd' hd

theorem lt_infinity_of_nearest? {m : Nat} (h : nearest? num den = some m) : m < infinity := by
  simp only [nearest?] at h
  split at h
  · next bound =>
    cases h
    exact bound
  · cases h

end Fraction

/-! ### Reading a decimal number -/

/-- The magnitude that a decimal number reads as. -/
def magnitudeOf? (x : Decimal) : Option Nat :=
  if x.coefficient = 0 then some 0
  else if maxDecimalExponent ≤ Int.log 10 x.size then none
  else if Int.log 10 x.size + 1 < minDecimalExponent then some 0
  else nearest? (x.coefficient * Nat.pow 10 x.exponent.toNat) (Nat.pow 10 (-x.exponent).toNat)

/-- The sign is read apart from the magnitude. -/
theorem ofDecimal?_eq (x : Decimal) : ofDecimal? x = (magnitudeOf? x).map (ofMagnitude x.negative) := by
  by_cases h : x.coefficient = 0
  · simp only [ofDecimal?, magnitudeOf?, h, if_true, Option.map_some]
  · have top : x.exponent + (Digit.ofNat x.coefficient).length = Int.log 10 x.size + 1 := by
      rw [Decimal.log_size h]
      omega
    simp only [ofDecimal?, magnitudeOf?, top, if_neg h, Int.lt_add_one_iff]
    split
    · rfl
    · split <;> rfl

theorem lt_infinity_of_magnitudeOf? {x : Decimal} {m : Nat} (h : magnitudeOf? x = some m) :
    m < infinity := by
  unfold magnitudeOf? at h
  split at h
  · cases h
    decide
  · split at h
    · cases h
    · split at h
      · cases h
        decide
      · exact lt_infinity_of_nearest? h

/-- A decimal number reads as a finite number if it reads as any. -/
theorem isFinite_of_ofDecimal? {x : Decimal} {y : Binary64} (h : ofDecimal? x = some y) :
    y.isFinite := by
  rw [ofDecimal?_eq] at h
  obtain ⟨m, read, rfl⟩ := Option.map_eq_some_iff.mp h
  exact isFinite_ofMagnitude _ (lt_infinity_of_magnitudeOf? read)

theorem ofDecimal?_eq_some_iff {x : Decimal} {y : Binary64} : ofDecimal? x = some y ↔
    magnitudeOf? x = some y.magnitude ∧ x.negative = y.isNegative := by
  rw [ofDecimal?_eq, Option.map_eq_some_iff]
  constructor
  · rintro ⟨m, read, rfl⟩
    have bound := (lt_infinity_of_magnitudeOf? read).trans infinity_lt
    rw [magnitude_ofMagnitude _ bound, isNegative_ofMagnitude _ bound]
    exact ⟨read, rfl⟩
  · rintro ⟨read, sign⟩
    exact ⟨_, read, by rw [sign, ofMagnitude_magnitude]⟩

theorem ten_pow_pos (k : Nat) : 0 < Nat.pow 10 k :=
  Nat.pow_pos (by decide)

/-- A decimal number rounds as every fraction of its size does. -/
theorem nearest?_of_size {x : Decimal} {num den : Nat} (nonzero : x.coefficient ≠ 0) (hn : 0 < num)
    (hd : 0 < den) (same : x.size = num / den) :
    nearest? (x.coefficient * Nat.pow 10 x.exponent.toNat) (Nat.pow 10 (-x.exponent).toNat) =
      nearest? num den := by
  refine nearest?_congr (Nat.mul_pos (Nat.pos_of_ne_zero nonzero) (ten_pow_pos _)) (ten_pow_pos _) hn hd ?_
  rw [Decimal.size_eq_div, div_eq_div_iff (Nat.cast_ne_zero.mpr (ten_pow_pos _).ne')
    (Nat.cast_ne_zero.mpr hd.ne')] at same
  exact_mod_cast same

/-- The magnitude depends on the size alone. -/
theorem magnitudeOf?_congr {x y : Decimal} (same : x.size = y.size) : magnitudeOf? x = magnitudeOf? y := by
  by_cases h : x.coefficient = 0
  · have h' : y.coefficient = 0 := by
      rw [← Decimal.size_eq_zero_iff, ← same, Decimal.size_eq_zero_iff, h]
    rw [magnitudeOf?, magnitudeOf?, if_pos h, if_pos h']
  · have h' : y.coefficient ≠ 0 := by
      rw [Ne, ← Decimal.size_eq_zero_iff, ← same, Decimal.size_eq_zero_iff]
      exact h
    have nearest := nearest?_of_size h (Nat.mul_pos (Nat.pos_of_ne_zero h') (ten_pow_pos _))
      (ten_pow_pos _) (same.trans y.size_eq_div)
    rw [magnitudeOf?, magnitudeOf?, if_neg h, if_neg h', same, nearest]

/-! ### The value of a finite magnitude -/

section Ratio

variable {m : Nat}

theorem scale_add_significand (m : Nat) : scale m * Nat.pow 2 52 + significand m = m := by
  have unit : Nat.pow 2 52 = 4503599627370496 := rfl
  rw [significand, scale, unit]
  omega

/-- A significand has at most 53 bits, and all of them unless the scale is the lowest. -/
theorem significand_bounds (m : Nat) :
    significand m < 2 ^ 53 ∧ (scale m = 0 ∨ 2 ^ 52 ≤ significand m) := by
  have unit : Nat.pow 2 52 = 4503599627370496 := rfl
  rw [significand, scale, unit]
  omega

theorem significand_pos (h : 0 < m) : 0 < significand m := by
  have := scale_add_significand m
  rcases (significand_bounds m).2 with lowest | large
  · rw [lowest] at this
    omega
  · omega

theorem scale_lt (h : m < infinity) : scale m ≤ 2045 := by
  have limit : infinity = 2047 * 4503599627370496 := rfl
  have unit : Nat.pow 2 52 = 4503599627370496 := rfl
  rw [scale, unit]
  omega

theorem two_pow_pos (k : Nat) : 0 < Nat.pow 2 k :=
  Nat.two_pow_pos k

theorem ratio_num_pos (h : 0 < m) : 0 < (ratio m).1 :=
  Nat.mul_pos (significand_pos h) (two_pow_pos _)

theorem ratio_den_pos : 0 < (ratio m).2 := by
  simp only [ratio, two_pow_pos]

theorem ratio_eq (m : Nat) :
    ((ratio m).1 : ℚ) / (ratio m).2 = significand m * 2 ^ ((scale m : Int) - 1074) := by
  have num : ((ratio m).1 : ℚ) = significand m * 2 ^ (scale m : Int) := by
    rw [ratio, Nat.cast_mul, Nat.pow_eq, Nat.cast_pow, zpow_natCast, Nat.cast_ofNat]
  have den : ((ratio m).2 : ℚ) = 2 ^ (1074 : Int) := by
    simp only [ratio, Nat.pow_eq, Nat.cast_pow, Nat.cast_ofNat]
    rw [← zpow_natCast, Nat.cast_ofNat]
  rw [num, den, mul_div_assoc, ← zpow_sub₀ (by decide)]

theorem ratio_pos (h : 0 < m) : (0 : ℚ) < (ratio m).1 / (ratio m).2 :=
  div_pos (Nat.cast_pos.mpr (ratio_num_pos h)) (Nat.cast_pos.mpr ratio_den_pos)

theorem ratio_lt (m : Nat) : ((ratio m).1 : ℚ) / (ratio m).2 < 2 ^ ((scale m : Int) - 1074 + 53) := by
  have bound : (significand m : ℚ) < 2 ^ (53 : Int) := by
    exact_mod_cast (significand_bounds m).1
  calc ((ratio m).1 : ℚ) / (ratio m).2 = significand m * 2 ^ ((scale m : Int) - 1074) := ratio_eq m
    _ < 2 ^ (53 : Int) * 2 ^ ((scale m : Int) - 1074) := by gcongr
    _ = 2 ^ ((scale m : Int) - 1074 + 53) := by
      rw [← zpow_add₀ (by decide), Int.add_comm]

theorem le_ratio (h : scale m ≠ 0) :
    (2 : ℚ) ^ ((scale m : Int) - 1074 + 52) ≤ (ratio m).1 / (ratio m).2 := by
  have bound : (2 : ℚ) ^ (52 : Int) ≤ significand m := by
    exact_mod_cast (significand_bounds m).2.resolve_left h
  calc (2 : ℚ) ^ ((scale m : Int) - 1074 + 52) = 2 ^ (52 : Int) * 2 ^ ((scale m : Int) - 1074) := by
        rw [← zpow_add₀ (by decide), Int.add_comm]
    _ ≤ significand m * 2 ^ ((scale m : Int) - 1074) := by gcongr
    _ = (ratio m).1 / (ratio m).2 := (ratio_eq m).symm

/-- The lowest bit of a magnitude is where rounding its value puts it. -/
theorem exponent_ratio (h : 0 < m) :
    max (floorLog2 (ratio m).1 (ratio m).2 - 52) minExponent = (scale m : Int) - 1074 := by
  have upper := (Int.lt_zpow_iff_log_lt (b := 2) (by decide) (ratio_pos h)).mp (ratio_lt m)
  rw [← floorLog2_eq (ratio_num_pos h) ratio_den_pos] at upper
  by_cases lowest : scale m = 0
  · simp only [minExponent, lowest] at upper ⊢
    omega
  · have lower := (Int.zpow_le_iff_le_log (b := 2) (by decide) (ratio_pos h)).mp (le_ratio lowest)
    rw [← floorLog2_eq (ratio_num_pos h) ratio_den_pos] at lower
    simp only [minExponent]
    omega

/-- The value of a finite magnitude rounds to the magnitude. -/
theorem nearest?_ratio (pos : 0 < m) (finite : m < infinity) :
    nearest? (ratio m).1 (ratio m).2 = some m := by
  have powers : 2 ^ scale m * 2 ^ (-((scale m : Int) - 1074)).toNat =
      2 ^ 1074 * 2 ^ ((scale m : Int) - 1074).toNat := by
    rw [← Nat.pow_add, ← Nat.pow_add]
    congr 1
    omega
  have units : roundHalfEven ((ratio m).1 * Nat.pow 2 (-((scale m : Int) - 1074)).toNat)
      ((ratio m).2 * Nat.pow 2 ((scale m : Int) - 1074).toNat) = significand m := by
    have unit : 0 < 2 ^ 1074 * 2 ^ ((scale m : Int) - 1074).toNat := by positivity
    simp only [ratio, Nat.pow_eq, Nat.mul_assoc, powers, roundHalfEven_self unit]
  have whole : ((scale m : Int) - 1074 - minExponent).toNat * Nat.pow 2 52 + significand m = m := by
    rw [minExponent, Int.sub_neg, Int.sub_add_cancel, Int.toNat_natCast, scale_add_significand]
  simp only [nearest?, exponent_ratio pos, units, whole, if_pos finite]

end Ratio

end Binary64

end SimdProfile

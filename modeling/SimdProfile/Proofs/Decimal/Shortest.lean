import Mathlib.Data.Nat.Cast.Order.Field
import SimdProfile.Decimal.Shortest
import SimdProfile.Proofs.Decimal.Nearest

/-!
# The shortest decimal form reads back

Whatever grid wins, or if none does, what is written for a positive finite number reads as that number,
and its digits are few enough that all of them are read.
-/

namespace SimdProfile.Binary64

section Fraction

variable {num den : Nat}

theorem roundHalfEven_cases (num den : Nat) :
    roundHalfEven num den = num / den ∨ roundHalfEven num den = num / den + 1 := by
  simp only [roundHalfEven]
  split
  · exact .inl rfl
  · split
    · exact .inr rfl
    · omega

/-- A quotient rounded down has the powers of ten below it that its digits count. -/
theorem pow_length_le_div (h : num / den ≠ 0) :
    (10 : ℚ) ^ ((Digit.ofNat (num / den)).length - 1) ≤ num / den := by
  have digits := Digit.pow_le_of_ofNat h
  calc (10 : ℚ) ^ ((Digit.ofNat (num / den)).length - 1) ≤ (num / den : Nat) := by exact_mod_cast digits
    _ ≤ num / den := Nat.cast_div_le

theorem div_lt_pow_length (hd : 0 < den) :
    (num : ℚ) / den < 10 ^ (Digit.ofNat (num / den)).length := by
  have hd' : (0 : ℚ) < den := Nat.cast_pos.mpr hd
  have digits : num / den + 1 ≤ 10 ^ (Digit.ofNat (num / den)).length := Digit.lt_pow_of_ofNat _
  have above : (num : ℚ) < (num / den + 1 : Nat) * den := by
    exact_mod_cast Nat.lt_mul_of_div_lt (Nat.lt_succ_self _) hd
  calc (num : ℚ) / den < (num / den + 1 : Nat) := (div_lt_iff₀ hd').mpr above
    _ ≤ 10 ^ (Digit.ofNat (num / den)).length := by exact_mod_cast digits

theorem floorLog10_eq (hn : 0 < num) (hd : 0 < den) :
    floorLog10 num den = Int.log 10 ((num : ℚ) / den) := by
  have positive : (0 : ℚ) < num / den := div_pos (Nat.cast_pos.mpr hn) (Nat.cast_pos.mpr hd)
  have ten : ((10 : Nat) : ℚ) = 10 := Nat.cast_ofNat
  rw [floorLog10]
  split
  · next large =>
    have nonzero : num / den ≠ 0 := (Nat.div_pos large hd).ne'
    refine (intLog_eq (by decide) positive ?_ ?_).symm
    · rw [ten, ← Nat.cast_pred (Digit.length_ofNat_pos nonzero), zpow_natCast]
      exact pow_length_le_div nonzero
    · rw [ten, Int.sub_add_cancel, zpow_natCast]
      exact div_lt_pow_length hd
  · next small =>
    have nonzero : den / num ≠ 0 := (Nat.div_pos (Nat.le_of_not_le small) hn).ne'
    have length := Digit.length_ofNat_pos nonzero
    have lower := pow_length_le_div nonzero
    have upper : (den : ℚ) / num < 10 ^ (Digit.ofNat (den / num)).length := div_lt_pow_length hn
    generalize (Digit.ofNat (den / num)).length = k at *
    -- a fraction below one lies between the inverses of the powers that bound its inverse
    have above : (10 : ℚ) ^ (-(k : Int)) ≤ num / den := by
      rw [zpow_neg, zpow_natCast, ← inv_div]
      exact inv_anti₀ (inv_pos.mp (by rwa [inv_div])) upper.le
    have under : (num : ℚ) / den ≤ 10 ^ (-((k - 1 : Nat) : Int)) := by
      rw [zpow_neg, zpow_natCast, ← inv_div]
      exact inv_anti₀ (by positivity) lower
    have test : (10 : ℚ) ^ (-((k - 1 : Nat) : Int)) ≤ num / den ↔ den ≤ num * Nat.pow 10 (k - 1) := by
      have power := @zpow_le_div_iff 10 num den (by decide) hd (-((k - 1 : Nat) : Int))
      simpa using power
    dsimp only
    split
    · next reached =>
      refine (intLog_eq (by decide) positive (test.mpr reached) (under.trans_lt ?_)).symm
      exact zpow_lt_zpow_right₀ (by decide) (Int.lt_succ _)
    · next missed =>
      refine (intLog_eq (by decide) positive above ?_).symm
      have step : -(k : Int) + 1 = -((k - 1 : Nat) : Int) := by omega
      rw [step]
      exact not_le.mp (mt test.mp missed)

end Fraction

variable {m c : Nat} {e : Int}

theorem readsAs_iff (finite : m < infinity) :
    readsAs m c e ↔ magnitudeOf? ⟨false, c, e⟩ = some m := by
  have bound := finite.trans infinity_lt
  rw [readsAs, beq_iff_eq, ofDecimal?_eq_some_iff, magnitude_ofMagnitude _ bound,
    isNegative_ofMagnitude _ bound]
  exact and_iff_left rfl

/-! ### On a grid -/

/-- The multiple of a power of ten below a magnitude. -/
def below (m : Nat) (e : Int) : Nat :=
  (ratio m).1 * Nat.pow 10 (-e).toNat / ((ratio m).2 * Nat.pow 10 e.toNat)

theorem onGrid?_cases (h : onGrid? m e = some c) :
    readsAs m c e ∧ (c = below m e ∨ c = below m e + 1) := by
  have nearest := roundHalfEven_cases ((ratio m).1 * Nat.pow 10 (-e).toNat)
    ((ratio m).2 * Nat.pow 10 e.toNat)
  rw [onGrid?] at h
  dsimp only at h
  rw [← below] at h nearest
  split at h
  · next lower =>
    split at h
    · next upper =>
      rw [Option.some.inj h] at nearest
      rcases nearest with rfl | rfl
      · exact ⟨lower, .inl rfl⟩
      · exact ⟨upper, .inr rfl⟩
    · cases h
      exact ⟨lower, .inl rfl⟩
  · split at h
    · next upper =>
      cases h
      exact ⟨upper, .inr rfl⟩
    · cases h

theorem below_le (m : Nat) (e : Int) : (below m e : ℚ) ≤ (ratio m).1 / (ratio m).2 / 10 ^ e := by
  have power : (10 : ℚ) ^ e = _ := zpow_eq_div (b := 10) (by decide) e
  calc (below m e : ℚ) ≤ ((ratio m).1 * Nat.pow 10 (-e).toNat : Nat) /
        ((ratio m).2 * Nat.pow 10 e.toNat : Nat) := Nat.cast_div_le
    _ = (ratio m).1 / (ratio m).2 / 10 ^ e := by
      rw [power, Nat.cast_mul, Nat.cast_mul, div_div_eq_mul_div, mul_div_mul_comm, mul_div_assoc]

/-- On the grid `k` places below its highest digit a number has at most `k + 1` digits. -/
theorem below_lt (pos : 0 < m) (k : Nat) :
    below m (floorLog10 (ratio m).1 (ratio m).2 - k) < 10 ^ (k + 1) := by
  have upper := Int.lt_zpow_succ_log_self (b := 10) (by decide) (((ratio m).1 : ℚ) / (ratio m).2)
  rw [floorLog10_eq (ratio_num_pos pos) ratio_den_pos]
  generalize Int.log 10 (((ratio m).1 : ℚ) / (ratio m).2) = top at *
  have strict : (below m (top - k) : ℚ) < 10 ^ (k + 1) := by
    calc (below m (top - k) : ℚ) ≤ (ratio m).1 / (ratio m).2 / 10 ^ (top - k) := below_le m _
      _ < 10 ^ (top + 1) / 10 ^ (top - k) := by
        gcongr
        exact upper
      _ = 10 ^ (k + 1) := by
        rw [← zpow_sub₀ (by decide), ← zpow_natCast]
        congr 1
        omega
  exact_mod_cast strict

/-! ### All digits -/

theorem size_exactDecimal (m : Nat) :
    Decimal.size ⟨false, (exactDecimal m).1, (exactDecimal m).2⟩ = (ratio m).1 / (ratio m).2 := by
  have power : (2 : ℚ) ^ ((scale m : Int) - 1074) =
      (2 ^ (scale m - 1074) : Nat) / (2 ^ (1074 - scale m) : Nat) := by
    have above : ((scale m : Int) - 1074).toNat = scale m - 1074 := by omega
    have below : (-((scale m : Int) - 1074)).toNat = 1074 - scale m := by omega
    have fraction := zpow_eq_div (b := 2) (by decide) ((scale m : Int) - 1074)
    rwa [above, below] at fraction
  have ten : (10 : ℚ) ^ (1074 - scale m) = 2 ^ (1074 - scale m) * 5 ^ (1074 - scale m) := by
    rw [← mul_pow]
    norm_num
  rw [ratio_eq, Decimal.size, exactDecimal, power]
  simp only [zpow_neg, zpow_natCast, ten, Nat.pow_eq]
  push_cast
  field_simp

theorem mul_pow_le {a b k n : Nat} (base : 0 < c) (h : a ≤ b) (hk : k ≤ n) : a * c ^ k ≤ b * c ^ n :=
  Nat.mul_le_mul h (Nat.pow_le_pow_right base hk)

theorem exactDecimal_lt (finite : m < infinity) : (exactDecimal m).1 < 10 ^ 768 := by
  have bits := (significand_bounds m).1
  have top := scale_lt finite
  rw [exactDecimal]
  dsimp only [Nat.pow_eq]
  rcases Nat.le_total (scale m) 1074 with low | high
  · have limit : 2 ^ 53 * 5 ^ 1074 < 10 ^ 768 := by decide +kernel
    calc significand m * 2 ^ (scale m - 1074) * 5 ^ (1074 - scale m)
        = significand m * 5 ^ (1074 - scale m) := by
          rw [Nat.sub_eq_zero_of_le low, Nat.pow_zero, Nat.mul_one]
      _ ≤ 2 ^ 53 * 5 ^ 1074 := mul_pow_le (by decide) bits.le (Nat.sub_le _ _)
      _ < 10 ^ 768 := limit
  · have limit : 2 ^ 53 * 2 ^ 971 < 10 ^ 768 := by decide +kernel
    calc significand m * 2 ^ (scale m - 1074) * 5 ^ (1074 - scale m)
        = significand m * 2 ^ (scale m - 1074) := by
          rw [Nat.sub_eq_zero_of_le high, Nat.pow_zero, Nat.mul_one]
      _ ≤ 2 ^ 53 * 2 ^ 971 := mul_pow_le (by decide) bits.le (by omega)
      _ < 10 ^ 768 := limit

/-! ### Reading the value of a magnitude -/

theorem log_ratio_lt (pos : 0 < m) (finite : m < infinity) :
    Int.log 10 (((ratio m).1 : ℚ) / (ratio m).2) < maxDecimalExponent := by
  have top := scale_lt finite
  have limit : (2 : ℚ) ^ (1024 : Int) < 10 ^ (309 : Int) := by
    have whole : 2 ^ 1024 < 10 ^ 309 := by decide +kernel
    exact_mod_cast whole
  refine (Int.lt_zpow_iff_log_lt (by decide) (ratio_pos pos)).mp ?_
  calc ((ratio m).1 : ℚ) / (ratio m).2 < 2 ^ ((scale m : Int) - 1074 + 53) := ratio_lt m
    _ ≤ 2 ^ (1024 : Int) := zpow_le_zpow_right₀ (by decide) (by omega)
    _ < 10 ^ (309 : Int) := limit

theorem le_log_ratio (pos : 0 < m) :
    minDecimalExponent ≤ Int.log 10 (((ratio m).1 : ℚ) / (ratio m).2) := by
  have limit : (10 : ℚ) ^ (-324 : Int) ≤ 2 ^ (-1074 : Int) := by
    have whole : 2 ^ 1074 ≤ 10 ^ 324 := by decide +kernel
    rw [zpow_neg, zpow_neg]
    refine inv_anti₀ (by positivity) ?_
    exact_mod_cast whole
  have unit : (1 : ℚ) ≤ significand m := by exact_mod_cast significand_pos pos
  refine (Int.zpow_le_iff_le_log (by decide) (ratio_pos pos)).mp ?_
  calc (10 : ℚ) ^ (-324 : Int) ≤ 1 * 2 ^ (-1074 : Int) := by rwa [one_mul]
    _ ≤ significand m * 2 ^ ((scale m : Int) - 1074) :=
      mul_le_mul unit (zpow_le_zpow_right₀ (by decide) (by omega)) (by positivity) (by positivity)
    _ = (ratio m).1 / (ratio m).2 := (ratio_eq m).symm

/-- A decimal number of the size of a finite magnitude reads as it. -/
theorem magnitudeOf?_of_size {x : Decimal} (pos : 0 < m) (finite : m < infinity)
    (same : x.size = (ratio m).1 / (ratio m).2) : magnitudeOf? x = some m := by
  have upper := log_ratio_lt pos finite
  have lower := le_log_ratio pos
  have nonzero : x.coefficient ≠ 0 := by
    rw [Ne, ← Decimal.size_eq_zero_iff, same]
    exact (ratio_pos pos).ne'
  rw [← same] at upper lower
  rw [magnitudeOf?, if_neg nonzero, if_neg (by omega), if_neg (by omega),
    nearest?_of_size nonzero (ratio_num_pos pos) ratio_den_pos same, nearest?_ratio pos finite]

/-! ### The shortest form -/

theorem shortest_cases (m : Nat) :
    (∃ k : Nat, k < 17 ∧
      onGrid? m (floorLog10 (ratio m).1 (ratio m).2 - k) = some (shortest m).1 ∧
      (shortest m).2 = floorLog10 (ratio m).1 (ratio m).2 - k) ∨
    shortest m = exactDecimal m := by
  simp only [shortest]
  cases found : (List.range 17).findSome? fun k : Nat =>
    (onGrid? m (floorLog10 (ratio m).1 (ratio m).2 - k)).map
      (·, floorLog10 (ratio m).1 (ratio m).2 - (k : Int)) with
  | none => exact .inr rfl
  | some x =>
    obtain ⟨k, member, hit⟩ := List.exists_of_findSome?_eq_some found
    obtain ⟨c, onGrid, rfl⟩ := Option.map_eq_some_iff.mp hit
    exact .inl ⟨k, List.mem_range.mp member, onGrid, rfl⟩

/-- What is written for a finite number reads as that number. -/
theorem magnitudeOf?_shortest (pos : 0 < m) (finite : m < infinity) :
    magnitudeOf? ⟨false, (shortest m).1, (shortest m).2⟩ = some m := by
  rcases shortest_cases m with ⟨k, -, hit, exponent⟩ | exact
  · rw [exponent, ← readsAs_iff finite]
    exact (onGrid?_cases hit).1
  · rw [exact]
    exact magnitudeOf?_of_size pos finite (size_exactDecimal m)

/-- What is written for a finite number has no more digits than are read one by one. -/
theorem shortest_lt (pos : 0 < m) (finite : m < infinity) : (shortest m).1 < 10 ^ 768 := by
  rcases shortest_cases m with ⟨k, small, hit, -⟩ | exact
  · have limit : 10 ^ 17 < 10 ^ 768 := by decide +kernel
    refine Nat.lt_of_le_of_lt ?_ limit
    have digits : 10 ^ (k + 1) ≤ 10 ^ 17 := Nat.pow_le_pow_right (by decide) small
    have floor := below_lt pos k
    rcases (onGrid?_cases hit).2 with lower | upper <;> omega
  · rw [exact]
    exact exactDecimal_lt finite

end SimdProfile.Binary64

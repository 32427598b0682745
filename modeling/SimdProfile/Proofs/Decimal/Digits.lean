import Mathlib.Data.List.TakeWhile
import Mathlib.Tactic.Ring
import SimdProfile.Decimal

/-!
# Decimal digits

The digits of a number and the number that digits stand for undo each other. Zeros at the end of digits
are a power of ten, and as many digits as there are bound the number.
-/

namespace SimdProfile.Digit

variable (d : Digit) (as bs ds : List Digit) (n : Nat)

/-! ### The number of digits -/

theorem foldl_eq (acc : Nat) :
    ds.foldl (fun acc d => acc * 10 + d.val) acc = acc * 10 ^ ds.length + value ds := by
  induction ds generalizing acc with
  | nil => simp [value]
  | cons d ds ih =>
    rw [value, List.foldl_cons, List.foldl_cons, ih, ih (0 * 10 + d.val), List.length_cons]
    ring

theorem value_cons : value (d :: ds) = d.val * 10 ^ ds.length + value ds := by
  rw [value, List.foldl_cons, foldl_eq]
  ring

theorem value_append : value (as ++ bs) = value as * 10 ^ bs.length + value bs := by
  rw [value, List.foldl_append, foldl_eq]
  rfl

theorem value_zeros (k : Nat) : value (List.replicate k zero) = 0 := by
  induction k with
  | zero => rfl
  | succ k ih => rw [List.replicate_succ, value_cons, ih, zero, Fin.val_zero, Nat.zero_mul]

theorem value_lt : value ds < 10 ^ ds.length := by
  induction ds with
  | nil => decide
  | cons d ds ih =>
    have digit : d.val * 10 ^ ds.length ≤ 9 * 10 ^ ds.length :=
      Nat.mul_le_mul_right _ (Nat.le_of_lt_succ d.isLt)
    rw [value_cons, List.length_cons, Nat.pow_succ]
    omega

/-- A first digit that is not zero makes a number as large as its digits allow. -/
theorem pow_le_value_cons (h : d ≠ zero) : 10 ^ ds.length ≤ value (d :: ds) := by
  have positive : 1 ≤ d.val := Nat.one_le_iff_ne_zero.mpr fun none => h (Fin.ext none)
  have digit : 1 * 10 ^ ds.length ≤ d.val * 10 ^ ds.length := Nat.mul_le_mul_right _ positive
  rw [value_cons]
  omega

/-! ### The digits of a number -/

theorem digitsOnto_append (tail : List Digit) : digitsOnto n (as ++ tail) = digitsOnto n as ++ tail := by
  induction n using Nat.strongRecOn generalizing as with
  | _ n ih =>
    rw [digitsOnto, digitsOnto.eq_def n as]
    split
    · rfl
    · exact ih (n / 10) (by omega) (Fin.ofNat 10 n :: as)

theorem ofNat_zero : ofNat 0 = [] := by
  rw [ofNat, digitsOnto, dif_pos rfl]

variable {n} in
theorem ofNat_eq (h : n ≠ 0) : ofNat n = ofNat (n / 10) ++ [Fin.ofNat 10 n] := by
  rw [ofNat, digitsOnto, dif_neg h]
  exact digitsOnto_append [] (n / 10) [Fin.ofNat 10 n]

theorem value_ofNat : value (ofNat n) = n := by
  induction n using Nat.strongRecOn with
  | _ n ih =>
    by_cases h : n = 0
    · rw [h, ofNat_zero]
      rfl
    · rw [ofNat_eq h, value_append, ih (n / 10) (by omega), value_cons]
      simp only [List.length_singleton, List.length_nil, value, List.foldl_nil, Fin.ofNat]
      omega

variable {n} in
/-- The first digit of a number is not zero. -/
theorem head_ofNat_ne_zero (h : n ≠ 0) : ∃ d ds, ofNat n = d :: ds ∧ d ≠ zero := by
  induction n using Nat.strongRecOn with
  | _ n ih =>
    by_cases small : n / 10 = 0
    · refine ⟨Fin.ofNat 10 n, [], by rw [ofNat_eq h, small, ofNat_zero, List.nil_append], fun none => ?_⟩
      have : n % 10 = 0 := congrArg Fin.val none
      omega
    · obtain ⟨d, ds, more, first⟩ := ih (n / 10) (by omega) small
      exact ⟨d, ds ++ [Fin.ofNat 10 n], by rw [ofNat_eq h, more, List.cons_append], first⟩

variable {n} in
theorem length_ofNat_pos (h : n ≠ 0) : 0 < (ofNat n).length := by
  obtain ⟨d, ds, digits, -⟩ := head_ofNat_ne_zero h
  rw [digits]
  exact Nat.succ_pos _

variable {n} in
theorem pow_le_of_ofNat (h : n ≠ 0) : 10 ^ ((ofNat n).length - 1) ≤ n := by
  obtain ⟨d, ds, digits, first⟩ := head_ofNat_ne_zero h
  calc 10 ^ ((ofNat n).length - 1) = 10 ^ ds.length := by rw [digits, List.length_cons, Nat.add_sub_cancel]
    _ ≤ value (d :: ds) := pow_le_value_cons d ds first
    _ = n := by rw [← digits, value_ofNat]

theorem lt_pow_of_ofNat : n < 10 ^ (ofNat n).length := by
  calc n = value (ofNat n) := (value_ofNat n).symm
    _ < 10 ^ (ofNat n).length := value_lt _

variable {n} in
theorem length_ofNat_le {k : Nat} (h : n < 10 ^ k) : (ofNat n).length ≤ k := by
  by_cases zero : n = 0
  · rw [zero, ofNat_zero]
    exact Nat.zero_le k
  · have : 10 ^ ((ofNat n).length - 1) < 10 ^ k := Nat.lt_of_le_of_lt (pow_le_of_ofNat zero) h
    have := (Nat.pow_lt_pow_iff_right (by decide)).mp this
    omega

/-! ### Digits as text -/

theorem toChar_ofNat (h : n < 10) : toChar (Fin.ofNat 10 n) = n.digitChar := by
  revert n
  decide

variable {n} in
/-- The text of a number is that of its digits. -/
theorem text_ofNat (h : n ≠ 0) : text (ofNat n) = Text.natDigits 10 n := by
  induction n using Nat.strongRecOn with
  | _ n ih =>
    rw [ofNat_eq h, Text.natDigits, Nat.toDigits_eq_if (by decide), text, List.map_append]
    split
    · next small =>
      rw [Nat.div_eq_of_lt small, ofNat_zero, List.map_nil, List.nil_append, List.map_singleton,
        toChar_ofNat n small]
    · next large =>
      have last : Fin.ofNat 10 n = Fin.ofNat 10 (n % 10) := Fin.ext (by simp [Fin.ofNat])
      rw [← text, ih (n / 10) (by omega) (by omega), List.map_singleton, last,
        toChar_ofNat _ (Nat.mod_lt n (by decide)), Text.natDigits]

/-! ### Zeros at the end -/

/-- What is dropped are zeros. -/
theorem exists_zeros : ∃ k, ds = dropTrailingZeros ds ++ List.replicate k zero := by
  let last := ds.reverse.takeWhile (· == zero)
  have zeros : last = List.replicate last.length zero :=
    List.eq_replicate_of_mem fun d member => by
      simpa only [beq_iff_eq] using List.mem_takeWhile_imp (p := (· == zero)) member
  refine ⟨last.length, ?_⟩
  calc ds = (last ++ ds.reverse.dropWhile (· == zero)).reverse := by
        rw [List.takeWhile_append_dropWhile, List.reverse_reverse]
    _ = dropTrailingZeros ds ++ last.reverse := List.reverse_append
    _ = _ := by rw [zeros, List.reverse_replicate, List.length_replicate]

/-- Dropping zeros divides by a power of ten. -/
theorem value_dropTrailingZeros : ∃ k, ds.length = (dropTrailingZeros ds).length + k ∧
    value ds = value (dropTrailingZeros ds) * 10 ^ k := by
  obtain ⟨k, split⟩ := exists_zeros ds
  refine ⟨k, ?_, ?_⟩
  · calc ds.length = (dropTrailingZeros ds ++ List.replicate k zero).length := congrArg _ split
      _ = _ := by rw [List.length_append, List.length_replicate]
  · calc value ds = value (dropTrailingZeros ds ++ List.replicate k zero) := congrArg _ split
      _ = _ := by rw [value_append, value_zeros, List.length_replicate, Nat.add_zero]

variable {n} in
/-- The digits of a number up to its zeros at the end. -/
theorem exists_significant (h : n ≠ 0) : ∃ first more k,
    dropTrailingZeros (ofNat n) = first :: more ∧ (ofNat n).length = more.length + 1 + k ∧
      n = value (first :: more) * 10 ^ k := by
  obtain ⟨k, length, split⟩ := value_dropTrailingZeros (ofNat n)
  rw [value_ofNat] at split
  cases digits : dropTrailingZeros (ofNat n) with
  | nil =>
    rw [digits] at split
    exact absurd (split.trans (Nat.zero_mul _)) h
  | cons first more =>
    rw [digits] at split length
    exact ⟨first, more, k, rfl, length, split⟩

end SimdProfile.Digit

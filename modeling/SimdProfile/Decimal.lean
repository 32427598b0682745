import SimdProfile.Text.Digits

/-!
# Decimal numbers

Signed decimal numbers as a coefficient and a power of ten, and lists of decimal digits. `Digit.ofNat`
gives the digits of a number without leading zeros, and `Digit.value` the number that digits stand for.
-/

namespace SimdProfile

/-- The number `coefficient * 10 ^ exponent`, negated if `negative`. The sign is kept for zero too. -/
structure Decimal where
  negative : Bool
  coefficient : Nat
  exponent : Int
  deriving DecidableEq, Repr

/-- A decimal digit. -/
abbrev Digit := Fin 10

namespace Digit

/-- The digit zero. -/
def zero : Digit := 0

/-- The digit as a character. -/
def toChar (d : Digit) : Char :=
  Char.ofNat ('0'.toNat + d.val)

/-- The digit a character stands for. -/
def ofChar? (c : Char) : Option Digit :=
  if h : '0'.toNat ≤ c.toNat ∧ c.toNat ≤ '9'.toNat then
    some ⟨c.toNat - '0'.toNat, by
      have h0 : '0'.toNat = 48 := rfl
      have h9 : '9'.toNat = 57 := rfl
      omega⟩
  else none

theorem ofChar?_toChar (d : Digit) : ofChar? d.toChar = some d := by
  revert d; decide

/-- The digits as characters. -/
def text (ds : List Digit) : List Char :=
  ds.map toChar

/-- The number the digits stand for, the first the highest. -/
def value (ds : List Digit) : Nat :=
  ds.foldl (fun acc d => acc * 10 + d.val) 0

/-- The digits of `n` before those already in `tail`; none for zero. -/
def digitsOnto (n : Nat) (tail : List Digit) : List Digit :=
  if h : n = 0 then tail else digitsOnto (n / 10) (Fin.ofNat 10 n :: tail)
  termination_by n
  decreasing_by omega

/-- The digits of `n` without leading zeros; zero has none. -/
def ofNat (n : Nat) : List Digit :=
  digitsOnto n []

/-- The digits without the zeros at the end. -/
def dropTrailingZeros (ds : List Digit) : List Digit :=
  (ds.reverse.dropWhile (· == 0)).reverse

end Digit

namespace Decimal

/-- The number with its first `limit` digits, and a one for all digits that follow if there are any. -/
def curtail (limit : Nat) (x : Decimal) : Decimal :=
  let size := (Digit.ofNat x.coefficient).length
  if size ≤ limit then x
  else
    { x with
      coefficient := x.coefficient / Nat.pow 10 (size - limit) * 10 + 1
      exponent := x.exponent + (size - limit : Nat) - 1 }

end Decimal

end SimdProfile

import SimdProfile.Decimal

/-!
# Binary64 numbers

A binary64 number is kept by its 64 bits, so that two are equal exactly when they are the same number
with the same sign. `Binary64.ofDecimal?` reads a decimal number: the result is the nearest binary64
number, of two equally near ones the one with the even last bit, and none if that is beyond the largest
finite number. All of it is integer arithmetic.
-/

namespace SimdProfile

/-- A binary64 number, by its bits. -/
structure Binary64 where
  bits : UInt64
  deriving DecidableEq, Repr

namespace Binary64

/-- The bits of a native number. -/
def ofFloat (x : Float) : Binary64 := ⟨x.toBits⟩

/-- The number as a native one. -/
def toFloat (x : Binary64) : Float := Float.ofBits x.bits

/-- Positive zero. -/
def zero : Binary64 := ⟨0⟩

/-- The bits without the sign. -/
def magnitude (x : Binary64) : Nat :=
  x.bits.toNat % Nat.pow 2 63

/-- Whether the sign bit is set. -/
def isNegative (x : Binary64) : Bool :=
  Nat.pow 2 63 ≤ x.bits.toNat

/-- The magnitude of infinity; larger magnitudes are not numbers. -/
def infinity : Nat :=
  2047 * Nat.pow 2 52

/-- Whether the bits are no number. -/
def isNaN (x : Binary64) : Bool :=
  infinity < x.magnitude

/-- Whether the number is neither infinite nor none. -/
def isFinite (x : Binary64) : Bool :=
  x.magnitude < infinity

/-- The number with this sign and magnitude. -/
def ofMagnitude (negative : Bool) (magnitude : Nat) : Binary64 :=
  ⟨UInt64.ofNat (magnitude + if negative then Nat.pow 2 63 else 0)⟩

/-- Exponent of the lowest bit of a magnitude, counted from that of the smallest positive number. -/
def scale (magnitude : Nat) : Nat :=
  magnitude / Nat.pow 2 52 - 1

/-- The whole number of units of the lowest bit that a magnitude is. -/
def significand (magnitude : Nat) : Nat :=
  magnitude - scale magnitude * Nat.pow 2 52

/-- The exponent of the lowest bit of subnormal numbers. -/
def minExponent : Int := -1074

/-- The value of a finite magnitude as a fraction of two whole numbers. -/
def ratio (magnitude : Nat) : Nat × Nat :=
  (significand magnitude * Nat.pow 2 (scale magnitude), Nat.pow 2 1074)

/-- The whole number nearest to `num / den`, of two equally near ones the even one. -/
def roundHalfEven (num den : Nat) : Nat :=
  let q := num / den
  let r := num % den
  if 2 * r < den then q
  else if den < 2 * r then q + 1
  else q + q % 2

/-- The greatest `e` with `2 ^ e ≤ num / den`, for positive numbers. -/
def floorLog2 (num den : Nat) : Int :=
  let guess : Int := num.log2 - den.log2
  if den * Nat.pow 2 guess.toNat ≤ num * Nat.pow 2 (-guess).toNat then guess else guess - 1

/-- The magnitude nearest to the positive number `num / den`, if a finite one is. The lowest bit has
the exponent that leaves 53 bits, or that of subnormal numbers if this is higher; rounding up to the
next power of two carries into the exponent by itself. -/
def nearest? (num den : Nat) : Option Nat :=
  let exponent := max (floorLog2 num den - 52) minExponent
  let units :=
    roundHalfEven (num * Nat.pow 2 (-exponent).toNat) (den * Nat.pow 2 exponent.toNat)
  let magnitude := (exponent - minExponent).toNat * Nat.pow 2 52 + units
  if magnitude < infinity then some magnitude else none

/-- Decimal exponents from here on are beyond every finite number. -/
def maxDecimalExponent : Int := 309

/-- Numbers below ten to this power are nearer to zero than to the smallest positive number. -/
def minDecimalExponent : Int := -324

/-- The nearest binary64 number, if a finite one is. Numbers far outside the range are settled by
their count of digits, without their power of ten. -/
def ofDecimal? (x : Decimal) : Option Binary64 :=
  let top : Int := x.exponent + (Digit.ofNat x.coefficient).length
  if x.coefficient = 0 then some (ofMagnitude x.negative 0)
  else if maxDecimalExponent < top then none
  else if top < minDecimalExponent then some (ofMagnitude x.negative 0)
  else
    let num := x.coefficient * Nat.pow 10 x.exponent.toNat
    let den := Nat.pow 10 (-x.exponent).toNat
    (nearest? num den).map (ofMagnitude x.negative)

end Binary64

end SimdProfile

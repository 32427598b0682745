import SimdProfile.Decimal.Binary64

/-!
# The shortest decimal form of a binary64 number

A finite number is written with the fewest digits that read back as it. For one digit, two digits and
so on the two neighbours of the number on that decimal grid are read back; the first grid with a hit
wins, of two hits the nearer one, and of two equally near ones the even one. If no grid up to seventeen
digits had a hit, all digits of the number would be taken, so what is written reads back in any case.
-/

namespace SimdProfile.Binary64

/-- The greatest `e` with `10 ^ e ≤ num / den`, for positive numbers. -/
def floorLog10 (num den : Nat) : Int :=
  if den ≤ num then (Digit.ofNat (num / den)).length - 1
  else
    let k : Nat := (Digit.ofNat (den / num)).length
    if den ≤ num * Nat.pow 10 (k - 1) then -((k - 1 : Nat) : Int) else -(k : Int)

/-- Whether a positive decimal number reads as the finite number of this magnitude. -/
def readsAs (magnitude coefficient : Nat) (exponent : Int) : Bool :=
  ofDecimal? ⟨false, coefficient, exponent⟩ == some (ofMagnitude false magnitude)

/-- The multiple of `10 ^ exponent` that stands for the magnitude: the neighbour below or above that
reads back, or the nearer one if both do. -/
def onGrid? (magnitude : Nat) (exponent : Int) : Option Nat :=
  let (num, den) := ratio magnitude
  let n := num * Nat.pow 10 (-exponent).toNat
  let d := den * Nat.pow 10 exponent.toNat
  let below := n / d
  if readsAs magnitude below exponent then
    some (if readsAs magnitude (below + 1) exponent then roundHalfEven n d else below)
  else if readsAs magnitude (below + 1) exponent then some (below + 1)
  else none

/-- The decimal number with all digits of the magnitude, and no zeros after a point. -/
def exactDecimal (magnitude : Nat) : Nat × Int :=
  let places := 1074 - scale magnitude
  (significand magnitude * Nat.pow 2 (scale magnitude - 1074) * Nat.pow 5 places, -(places : Int))

/-- The shortest decimal number, coefficient and exponent, of a positive finite magnitude. -/
def shortest (magnitude : Nat) : Nat × Int :=
  let (num, den) := ratio magnitude
  let top := floorLog10 num den
  let found := (List.range 17).findSome? fun (k : Nat) =>
    let exponent : Int := top - k
    (onGrid? magnitude exponent).map (·, exponent)
  found.getD (exactDecimal magnitude)

end SimdProfile.Binary64

import SimdProfile.Decimal.Shortest

/-!
# JSON numerals

A numeral is kept as it is spelled, so that a number no field asks for is accepted whatever its size.
The whole part is a natural number, because it has no leading zeros; a fraction without digits is none.

Integers are read exactly, all other numbers as the nearest binary64 number, for which the first
`maxDigits` digits and whether others follow are enough. Binary64 numbers are written in their shortest
form, which `Notation` lays out.
-/

namespace SimdProfile.Json

/-- The exponent part of a numeral: a letter, perhaps a sign, and at least one digit. -/
structure Exponent where
  capital : Bool
  sign : Option Bool
  first : Digit
  more : List Digit
  deriving DecidableEq, Repr

namespace Exponent

/-- The exponent; a sign is true for minus. -/
def value (e : Exponent) : Int :=
  let n : Int := Digit.value (e.first :: e.more)
  if e.sign = some true then -n else n

/-- The exponent as it is spelled. -/
def text (e : Exponent) : List Char :=
  (if e.capital then 'E' else 'e') ::
    (match e.sign with
      | none => []
      | some false => ['+']
      | some true => ['-']) ++ Digit.text (e.first :: e.more)

end Exponent

/-- A number as it is spelled. -/
structure Numeral where
  negative : Bool
  whole : Nat
  fraction : List Digit
  exponent : Option Exponent
  deriving DecidableEq, Repr

namespace Numeral

/-- The digits a text begins with, and the rest. -/
def spanDigits (cs : List Char) : List Digit × List Char :=
  (cs.takeWhile Char.isDigit |>.filterMap Digit.ofChar?, cs.dropWhile Char.isDigit)

/-- A sign a text begins with, true for minus, and the rest. -/
def spanSign : List Char → Option Bool × List Char
  | '+' :: cs => (some false, cs)
  | '-' :: cs => (some true, cs)
  | cs => (none, cs)

/-- A whole part without leading zeros. -/
def ofWhole? : List Digit → Option Nat
  | [] => none
  | [d] => some d.val
  | d :: ds => if d = Digit.zero then none else some (Digit.value (d :: ds))

/-- A fraction, which has digits if there is a point. -/
def spanFraction? : List Char → Option (List Digit × List Char)
  | '.' :: cs =>
    match spanDigits cs with
    | ([], _) => none
    | found => some found
  | cs => some ([], cs)

/-- An exponent after its letter, up to the end of the text. -/
def ofExponent? (capital : Bool) (cs : List Char) : Option Exponent :=
  match spanDigits (spanSign cs).2 with
  | (first :: more, []) => some ⟨capital, (spanSign cs).1, first, more⟩
  | _ => none

/-- What may follow the fraction: nothing or an exponent. -/
def ofTail? : List Char → Option (Option Exponent)
  | [] => some none
  | 'e' :: cs => some <$> ofExponent? false cs
  | 'E' :: cs => some <$> ofExponent? true cs
  | _ => none

/-- The numeral a text spells. -/
def ofChars? (cs : List Char) : Option Numeral := do
  let (negative, unsigned) := match cs with
    | '-' :: rest => (true, rest)
    | _ => (false, cs)
  let (ds, afterWhole) := spanDigits unsigned
  let whole ← ofWhole? ds
  let (fraction, afterFraction) ← spanFraction? afterWhole
  let exponent ← ofTail? afterFraction
  return { negative, whole, fraction, exponent }

/-- The numeral as it is spelled. -/
def text (n : Numeral) : List Char :=
  (if n.negative then ['-'] else []) ++ Text.natDigits 10 n.whole ++
    (if n.fraction.isEmpty then [] else '.' :: Digit.text n.fraction) ++
    (match n.exponent with
      | none => []
      | some e => e.text)

/-- The number it stands for. Zeros at the end of the fraction are left out. -/
def toDecimal (n : Numeral) : Decimal :=
  let fraction := Digit.dropTrailingZeros n.fraction
  { negative := n.negative
    coefficient := fraction.foldl (fun acc d => acc * 10 + d.val) n.whole
    exponent := (n.exponent.elim 0 Exponent.value) - fraction.length }

/-- The integer it stands for. A point or an exponent makes it none, and so does the sign of a
negative zero. -/
def toInt? (n : Numeral) : Option Int :=
  if !n.fraction.isEmpty || n.exponent.isSome then none
  else if !n.negative then some n.whole
  else if n.whole = 0 then none
  else some (-n.whole)

/-- The most digits that are read one by one. No binary64 number, and none halfway between two of
them, has more. -/
def maxDigits : Nat := 768

/-- The nearest binary64 number, if it is finite. The digits after the first `maxDigits` are together
read as a one, even if they are the last zeros of a whole part: a number with so many digits is never
halfway between two others, and rounds away from zero where it would be. -/
def toBinary64? (n : Numeral) : Option Binary64 :=
  Binary64.ofDecimal? (n.toDecimal.curtail maxDigits)

/-- The numeral of an integer. -/
def ofInt (i : Int) : Numeral :=
  ⟨i < 0, i.natAbs, [], none⟩

/-- How digits and an exponent become a numeral: the range of exponents that are written without
one, where a fraction is always written, if only a zero. -/
structure Notation where
  lowest : Int
  highest : Int

/-- Numbers from a hundred-thousandth up to below ten to the sixteenth have no exponent. -/
def standard : Notation := ⟨-5, 15⟩

/-- The numeral with these significant digits, the first of which counts `10 ^ exponent`. -/
def ofDigits (n : Notation) (negative : Bool) (first : Digit) (more : List Digit) (exponent : Int) :
    Numeral :=
  if n.lowest ≤ exponent ∧ exponent ≤ n.highest then
    if 0 ≤ exponent then
      let after := more.drop exponent.toNat
      let whole := Digit.value (first :: more.take exponent.toNat)
      ⟨negative, whole * Nat.pow 10 (exponent.toNat - more.length),
        if after.isEmpty then [Digit.zero] else after, none⟩
    else
      ⟨negative, 0, List.replicate (exponent.natAbs - 1) Digit.zero ++ first :: more, none⟩
  else
    match Digit.ofNat exponent.natAbs with
    | e :: es => ⟨negative, first.val, more, some ⟨false, some (exponent < 0), e, es⟩⟩
    | [] => ⟨negative, first.val, more, none⟩

/-- The shortest numeral that reads back as the number; none unless it is finite. -/
def ofBinary64? (x : Binary64) : Option Numeral :=
  if !x.isFinite then none
  else if x.magnitude = 0 then some ⟨x.isNegative, 0, [Digit.zero], none⟩
  else
    let (coefficient, exponent) := Binary64.shortest x.magnitude
    let digits := Digit.ofNat coefficient
    match Digit.dropTrailingZeros digits with
    | first :: more => some (ofDigits standard x.isNegative first more (exponent + digits.length - 1))
    | [] => none

end Numeral

end SimdProfile.Json

/-!
# Integers as text

Writing and reading of integers in a given base. Reading is that of a word with an upper limit: an
optional plus sign, then digits of the base, upper or lower case, leading zeros allowed. It goes from
left to right, and the first digit that is none, or that takes the number over the limit, decides
which fault is named.
-/

namespace SimdProfile.Text

/-- The number in lower-case digits of `base`. -/
def natDigits (base n : Nat) : List Char :=
  Nat.toDigits base n

/-- The number in decimal, a minus sign before it if it is negative. -/
def intDigits : Int → List Char
  | .ofNat n => natDigits 10 n
  | .negSucc n => '-' :: natDigits 10 (n + 1)

/-- The number in hexadecimal, marked by `0x`. -/
def hexDigits (n : Nat) : List Char :=
  '0' :: 'x' :: natDigits 16 n

/-- The number in decimal, filled with zeros on the left up to `width` digits. -/
def padded (width n : Nat) : List Char :=
  let ds := natDigits 10 n
  List.replicate (width - ds.length) '0' ++ ds

/-- The value of a digit of `base`, a letter of either case standing for ten and more. -/
def digitValue? (base : Nat) (c : Char) : Option Nat :=
  let value :=
    if '0' ≤ c && c ≤ '9' then c.toNat - '0'.toNat
    else if 'a' ≤ c && c ≤ 'z' then c.toNat - 'a'.toNat + 10
    else if 'A' ≤ c && c ≤ 'Z' then c.toNat - 'A'.toNat + 10
    else base
  if value < base then some value else none

/-- Why a text is not an integer of the wanted size. -/
inductive IntegerFault where
  | empty
  | invalidDigit
  | overflow
  deriving DecidableEq, Repr

/-- What is said about a text that is not an integer. -/
def IntegerFault.message : IntegerFault → String
  | .empty => "cannot parse integer from empty string"
  | .invalidDigit => "invalid digit found in string"
  | .overflow => "number too large to fit in target type"

/-- Digits read onto the value `acc` of those before them, up to `limit`. -/
def readDigits (base limit : Nat) : List Char → Nat → Except IntegerFault Nat
  | [], acc => .ok acc
  | c :: cs, acc =>
    match digitValue? base c with
    | none => .error .invalidDigit
    | some d =>
      if acc * base + d ≤ limit then readDigits base limit cs (acc * base + d) else .error .overflow

/-- An unsigned integer up to `limit`. -/
def readUnsigned (base limit : Nat) : List Char → Except IntegerFault Nat
  | [] => .error .empty
  | ['+'] => .error .invalidDigit
  | '+' :: cs => readDigits base limit cs 0
  | cs => readDigits base limit cs 0

/-- An unsigned 32-bit word. -/
def readWord (base : Nat) (cs : List Char) : Except IntegerFault UInt32 :=
  UInt32.ofNat <$> readUnsigned base 0xffffffff cs

end SimdProfile.Text

import SimdProfile.Json.Numeral

/-!
# JSON values

The tree a JSON text spells: numbers as they are spelled, and the members of an object in the order of
the text, repeated keys included. A string can hold half of a surrogate pair, written as an escape; it
then has no text, which matters only to those who ask for the text.
-/

namespace SimdProfile

namespace Json

/-- A string: its text, or nothing if an escape in it is half of a surrogate pair. -/
inductive Literal where
  | text (s : String)
  | unpaired
  deriving DecidableEq, Repr

/-- The text of a string. -/
def Literal.text? : Literal → Option String
  | .text s => some s
  | .unpaired => none

end Json

/-- A JSON value. -/
inductive Json where
  | null
  | bool (b : Bool)
  | number (n : Json.Numeral)
  | string (s : Json.Literal)
  | array (elements : List Json)
  | object (members : List (Json.Literal × Json))

namespace Json

/-- The string with this text. -/
def ofText (s : String) : Json := .string (.text s)

/-- The number of an integer. -/
def ofInt (i : Int) : Json := .number (.ofInt i)

/-- The number of a natural number. -/
def ofNat (n : Nat) : Json := ofInt n

/-- The shortest form of a binary64 number; null unless it is finite. -/
def ofBinary64 (x : Binary64) : Json :=
  (Numeral.ofBinary64? x).elim .null .number

/-- The object with these members. -/
def ofMembers (members : List (String × Json)) : Json :=
  .object (members.map fun m => (.text m.1, m.2))

end Json

end SimdProfile

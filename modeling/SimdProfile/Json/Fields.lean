import SimdProfile.Json.Basic

/-!
# Reading records out of JSON

A record is an object whose members stand in any order, or an array of its fields in the order they
are declared. Members with other names are passed over; a name given twice refuses the record. What a
field that is not given means is for the record to say.
-/

namespace SimdProfile.Json

/-- The given fields of a record, of those with these names. -/
def fields? (names : List String) : Json → Option (List (String × Json))
  | .object members => do
    let named ← members.mapM fun m => m.1.text?.map (·, m.2)
    let known := named.filter (names.contains ·.1)
    if (known.map (·.1)).Nodup then some known else none
  | .array elements =>
    if elements.length ≤ names.length then some (names.zip elements) else none
  | _ => none

variable {α : Type}

/-- The value of a field that has to be given. -/
def required? (fields : List (String × Json)) (name : String) (read? : Json → Option α) : Option α :=
  fields.lookup name >>= read?

/-- The value of a field, or `default` if it is not given. -/
def orDefault? (fields : List (String × Json)) (name : String) (read? : Json → Option α)
    (default : α) : Option α :=
  match fields.lookup name with
  | none => some default
  | some v => read? v

/-- The text of a string. -/
def text? : Json → Option String
  | .string s => s.text?
  | _ => none

/-- An integer between two bounds. -/
def int? (low high : Int) : Json → Option Int
  | .number n => n.toInt?.filter fun i => decide (low ≤ i ∧ i ≤ high)
  | _ => none

/-- A signed 32-bit integer. -/
def int32? (v : Json) : Option Int32 :=
  Int32.ofInt <$> v.int? (-0x80000000) 0x7fffffff

/-- An unsigned 32-bit integer. -/
def uint32? (v : Json) : Option UInt32 :=
  (UInt32.ofNat ·.toNat) <$> v.int? 0 0xffffffff

/-- An unsigned 64-bit integer. -/
def uint64? (v : Json) : Option UInt64 :=
  (UInt64.ofNat ·.toNat) <$> v.int? 0 0xffffffffffffffff

/-- A finite binary64 number; an integer is one too. -/
def binary64? : Json → Option Binary64
  | .number n => n.toBinary64?
  | _ => none

/-- The elements of an array, all read the same way. -/
def list? (read? : Json → Option α) : Json → Option (List α)
  | .array elements => elements.mapM read?
  | _ => none

/-- The name of an alternative that carries nothing: a string, or an object that gives it null. -/
def alternative? : Json → Option String
  | .string s => s.text?
  | .object [(name, .null)] => name.text?
  | _ => none

end SimdProfile.Json

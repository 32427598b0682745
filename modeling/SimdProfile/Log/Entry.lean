import SimdProfile.Json.Fields
import SimdProfile.Json.Printer
import SimdProfile.Json.Reader
import SimdProfile.Log.Record

/-!
# Entries of the log

An entry of the log is one JSON object on one line. Besides level, component, operation and message it
has annotations, a map from keys to JSON values, and says when, as which entry of the process, and by
which thread and process it was written; the host supplies these.

Two things are left to the host. How moments are written and read is the matter of its clock
(`Timestamp`): nothing but what the clock reads as a moment is the timestamp of an entry. And a map has no
order of its own, so it is written in the order in which the host goes through it (`MapOrder`).
-/

namespace SimdProfile.Json

mutual

/-- The value a tree stands for: integers of 64 bits stay, all other numbers are brought to their
shortest form, and the last of several members with one key counts. There is none if a number is too
large or a string has no text. -/
def settle? : Json → Option Json
  | .null => some .null
  | .bool b => some (.bool b)
  | .number n =>
    match n.toInt?.filter fun i => decide (-0x8000000000000000 ≤ i ∧ i ≤ 0xffffffffffffffff) with
    | some i => some (ofInt i)
    | none => n.toBinary64?.map ofBinary64
  | .string s => s.text?.map ofText
  | .array vs => .array <$> settleAll? vs
  | .object ms => ofMembers <$> settleMembers? ms

/-- The values of all elements. -/
def settleAll? : List Json → Option (List Json)
  | [] => some []
  | v :: vs => do return (← settle? v) :: (← settleAll? vs)

/-- The values of the members, one for each key. -/
def settleMembers? : List (Literal × Json) → Option (List (String × Json))
  | [] => some []
  | (key, v) :: ms => do
    let name ← key.text?
    let value ← settle? v
    let rest ← settleMembers? ms
    return if (rest.map (·.1)).contains name then rest else (name, value) :: rest

end

end SimdProfile.Json

namespace SimdProfile.Log

/-- How a clock writes and reads its moments. -/
class Timestamp (T : Type) where
  text : T → String
  ofText? : String → Option T

/-- A host may keep moments as the texts they were written as; it then takes any text for a moment. -/
@[default_instance]
instance : Timestamp String := ⟨id, some⟩

/-- The order in which a host goes through a map. -/
structure MapOrder where
  arrange : List (String × Json) → List (String × Json)
  arrange_perm : ∀ ms, (arrange ms).Perm ms

/-- The keys in the order in which they were put. -/
def MapOrder.asPut : MapOrder := ⟨id, .refl⟩

/-- What the host supplies for an entry: the moment, the number of the entry, and its thread and
process. -/
structure Stamp (T : Type := String) where
  timestamp : T
  sequence : UInt64
  thread : String
  process : UInt32
  deriving DecidableEq, Repr

/-- An entry of the log. -/
structure Entry (T : Type := String) where
  stamp : Stamp T
  level : String
  component : String
  operation : String
  message : String
  annotations : List (String × Json)

variable {T : Type}

/-- The stamp with the next number. The moment of an entry is its own. -/
def Stamp.next (s : Stamp T) : Stamp T := { s with sequence := s.sequence + 1 }

/-- The stamp at another moment. -/
def Stamp.atMoment (s : Stamp T) (moment : T) : Stamp T := { s with timestamp := moment }

namespace Entry

/-- An entry without annotations. -/
def create (stamp : Stamp T) (level : Level) (component operation message : String) : Entry T :=
  ⟨stamp, level.name, component, operation, message, []⟩

/-- A map with one more key, whose value replaces an earlier one. -/
def put (key : String) (value : Json) : List (String × Json) → List (String × Json)
  | [] => [(key, value)]
  | (k, v) :: rest => if k = key then (key, value) :: rest else (k, v) :: put key value rest

/-- The entry with one more annotation. -/
def annotate (e : Entry T) (key : String) (value : Json) : Entry T :=
  { e with annotations := put key value e.annotations }

/-- The entry with its annotations in the order in which the host goes through them. -/
def arrange (e : Entry T) (order : MapOrder) : Entry T :=
  { e with annotations := order.arrange e.annotations }

variable [Timestamp T]

/-- The members of an entry. -/
def toJson (e : Entry T) : Json :=
  .ofMembers [
    ("timestamp", .ofText (Timestamp.text e.stamp.timestamp)),
    ("sequence", .ofNat e.stamp.sequence.toNat),
    ("level", .ofText e.level),
    ("component", .ofText e.component),
    ("operation", .ofText e.operation),
    ("message", .ofText e.message),
    ("context", .ofMembers e.annotations),
    ("thread_id", .ofText e.stamp.thread),
    ("process_id", .ofNat e.stamp.process.toNat)]

/-- The text of an entry, on one line. -/
def text (e : Entry T) : String := e.toJson.compact

/-- A moment, as the clock reads it. -/
def moment? (v : Json) : Option T := v.text? >>= Timestamp.ofText?

/-- Annotations: an object with the values of its keys. -/
def annotations? : Json → Option (List (String × Json))
  | .object ms => Json.settleMembers? ms
  | _ => none

/-- An entry. -/
def ofJson? (v : Json) : Option (Entry T) := do
  let fields ← v.fields? ["timestamp", "sequence", "level", "component", "operation", "message",
    "context", "thread_id", "process_id"]
  return {
    stamp := {
      timestamp := ← Json.required? fields "timestamp" moment?
      sequence := ← Json.required? fields "sequence" Json.uint64?
      thread := ← Json.required? fields "thread_id" Json.text?
      process := ← Json.required? fields "process_id" Json.uint32? }
    level := ← Json.required? fields "level" Json.text?
    component := ← Json.required? fields "component" Json.text?
    operation := ← Json.required? fields "operation" Json.text?
    message := ← Json.required? fields "message" Json.text?
    annotations := ← Json.required? fields "context" annotations? }

/-- The entry a text stands for. -/
def ofText? (s : String) : Option (Entry T) := Json.parse? s >>= ofJson?

end Entry

end SimdProfile.Log

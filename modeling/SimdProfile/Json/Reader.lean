import SimdProfile.Json.Token

/-!
# Reading JSON

`Json.parse?` reads a text that holds one value and nothing else but blanks. The values that are still
open are kept on a stack, so the depth of a text has no limit.
-/

namespace SimdProfile.Json

/-- An open array or object, with what it holds so far, the last first. An object also has the key
whose value is being read. -/
inductive Open where
  | array (elements : List Json)
  | object (members : List (Literal × Json)) (key : Literal)

/-- What has been read, up to a token. -/
inductive Parse where
  /-- A value is due. -/
  | value (stack : List Open)
  /-- An array has just begun. -/
  | arrayBegun (stack : List Open)
  /-- An object has just begun. -/
  | objectBegun (stack : List Open)
  /-- A key is due in an object with these members. -/
  | key (members : List (Literal × Json)) (stack : List Open)
  /-- The colon after a key is due. -/
  | colon (members : List (Literal × Json)) (key : Literal) (stack : List Open)
  /-- A value is complete. -/
  | complete (v : Json) (stack : List Open)

namespace Parse

/-- A token where a value is due. -/
def begin? (stack : List Open) : Token → Option Parse
  | .beginObject => some (.objectBegun stack)
  | .beginArray => some (.arrayBegun stack)
  | .null => some (.complete .null stack)
  | .bool b => some (.complete (.bool b) stack)
  | .number n => some (.complete (.number n) stack)
  | .string s => some (.complete (.string s) stack)
  | _ => none

/-- One more token. -/
def step? : Parse → Token → Option Parse
  | .value stack, t => begin? stack t
  | .arrayBegun stack, .endArray => some (.complete (.array []) stack)
  | .arrayBegun stack, t => begin? (.array [] :: stack) t
  | .objectBegun stack, .endObject => some (.complete (.object []) stack)
  | .objectBegun stack, .string k => some (.colon [] k stack)
  | .key members stack, .string k => some (.colon members k stack)
  | .colon members k stack, .colon => some (.value (.object members k :: stack))
  | .complete v (.array elements :: stack), .comma => some (.value (.array (v :: elements) :: stack))
  | .complete v (.array elements :: stack), .endArray =>
    some (.complete (.array (v :: elements).reverse) stack)
  | .complete v (.object members k :: stack), .comma => some (.key ((k, v) :: members) stack)
  | .complete v (.object members k :: stack), .endObject =>
    some (.complete (.object ((k, v) :: members).reverse) stack)
  | _, _ => none

/-- The value once the tokens end. -/
def finish? : Parse → Option Json
  | .complete v [] => some v
  | _ => none

/-- The value of the rest of the tokens. -/
def run? (p : Parse) : List Token → Option Json
  | [] => p.finish?
  | t :: ts =>
    match p.step? t with
    | some p => p.run? ts
    | none => none

end Parse

/-- The value with these tokens. -/
def ofTokens? (ts : List Token) : Option Json :=
  (Parse.value []).run? ts

/-- The value a text spells. -/
def parse? (s : String) : Option Json :=
  Token.scan? s.toList >>= ofTokens?

end SimdProfile.Json

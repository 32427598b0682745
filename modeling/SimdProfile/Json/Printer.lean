import SimdProfile.Json.Token

/-!
# Writing JSON

A value is written in one of two layouts, which differ in blanks alone: on one line without blanks, or
with every element and member on a line of its own, indented by two blanks a level. An empty array or
object is written without blanks in both.
-/

namespace SimdProfile.Json

/-- The blanks of a layout: what stands before an element or a closing mark at a depth, and what
stands between a key and its value. -/
structure Layout where
  newline : Nat → List Char
  colon : List Char

/-- Everything on one line. -/
def Layout.compact : Layout := ⟨fun _ => [], [':']⟩

/-- Every element and member on a line of its own. -/
def Layout.pretty : Layout := ⟨fun depth => '\n' :: List.replicate (2 * depth) ' ', [':', ' ']⟩

mutual

/-- The text of a value that begins at a depth. -/
def render (l : Layout) (depth : Nat) : Json → List Char
  | .null => "null".toList
  | .bool true => "true".toList
  | .bool false => "false".toList
  | .number n => n.text
  | .string s => s.spelling
  | .array [] => ['[', ']']
  | .array (v :: vs) =>
    '[' :: l.newline (depth + 1) ++ render l (depth + 1) v ++ renderElements l (depth + 1) vs ++
      l.newline depth ++ [']']
  | .object [] => ['\x7b', '\x7d']
  | .object ((key, v) :: ms) =>
    '\x7b' :: l.newline (depth + 1) ++ key.spelling ++ l.colon ++ render l (depth + 1) v ++
      renderMembers l (depth + 1) ms ++ l.newline depth ++ ['\x7d']

/-- The text of the elements after the first. -/
def renderElements (l : Layout) (depth : Nat) : List Json → List Char
  | [] => []
  | v :: vs => ',' :: l.newline depth ++ render l depth v ++ renderElements l depth vs

/-- The text of the members after the first. -/
def renderMembers (l : Layout) (depth : Nat) : List (Literal × Json) → List Char
  | [] => []
  | (key, v) :: ms =>
    ',' :: l.newline depth ++ key.spelling ++ l.colon ++ render l depth v ++ renderMembers l depth ms

end

/-- The text of a value on one line. -/
def compact (v : Json) : String := String.ofList (render .compact 0 v)

/-- The text of a value with every element and member on a line of its own. -/
def pretty (v : Json) : String := String.ofList (render .pretty 0 v)

end SimdProfile.Json

import SimdProfile.Json.Basic

/-!
# JSON tokens

A JSON text as a list of tokens. Between tokens stand blanks; a run of letters, digits, signs and
points is one token, a word or a numeral; a string goes from quote to quote, with no control character
inside. `Token.scan?` walks the text once, with what it has read of the current token as its state.
-/

namespace SimdProfile.Json

namespace Literal

/-- A part of a string: a character, or a UTF-16 unit given by its number. -/
inductive Piece where
  | char (c : Char)
  | unit (n : Nat)
  deriving DecidableEq, Repr

/-- The character that the escape with this letter stands for. -/
def escaped? : Char → Option Char
  | '"' => some '"'
  | '\\' => some '\\'
  | '/' => some '/'
  | 'b' => some '\x08'
  | 'f' => some '\x0c'
  | 'n' => some '\n'
  | 'r' => some '\r'
  | 't' => some '\t'
  | _ => none

/-- The number spelled by four hexadecimal digits. -/
def unit? (a b c d : Char) : Option Nat :=
  [a, b, c, d].foldlM (fun acc x => (acc * 16 + ·) <$> Text.digitValue? 16 x) 0

/-- The parts of what stands between the quotes, the last first, put before those already read. -/
def piecesOnto (acc : List Piece) : List Char → Option (List Piece)
  | [] => some acc
  | '\\' :: 'u' :: a :: b :: c :: d :: cs => do piecesOnto (.unit (← unit? a b c d) :: acc) cs
  | '\\' :: e :: cs => do piecesOnto (.char (← escaped? e) :: acc) cs
  | c :: cs => if c = '\\' ∨ c < ' ' then none else piecesOnto (.char c :: acc) cs

/-- Whether a UTF-16 unit begins a surrogate pair. -/
def isHigh (n : Nat) : Bool := 0xd800 ≤ n && n ≤ 0xdbff

/-- Whether a UTF-16 unit ends a surrogate pair. -/
def isLow (n : Nat) : Bool := 0xdc00 ≤ n && n ≤ 0xdfff

/-- The string with these parts, the last first, before the characters `cs`. -/
def joinOnto (cs : List Char) : List Piece → Literal
  | [] => .text (String.ofList cs)
  | .char c :: ps => joinOnto (c :: cs) ps
  | .unit n :: ps =>
    if !isHigh n && !isLow n then joinOnto (Char.ofNat n :: cs) ps
    else match ps with
      | .unit m :: ps =>
        if isHigh m && isLow n then
          joinOnto (Char.ofNat (0x10000 + (m - 0xd800) * 0x400 + (n - 0xdc00)) :: cs) ps
        else .unpaired
      | _ => .unpaired

/-- The string whose spelling, without the quotes, is given. -/
def ofChars? (cs : List Char) : Option Literal :=
  joinOnto [] <$> piecesOnto [] cs

/-- The spelling of a character inside a string: a quote, a backslash and the controls are escaped. -/
def escape (c : Char) : List Char :=
  match c with
  | '"' => ['\\', '"']
  | '\\' => ['\\', '\\']
  | '\x08' => ['\\', 'b']
  | '\t' => ['\\', 't']
  | '\n' => ['\\', 'n']
  | '\x0c' => ['\\', 'f']
  | '\r' => ['\\', 'r']
  | c =>
    if c < ' ' then
      '\\' :: 'u' :: '0' :: '0' :: (if c.toNat < 16 then ['0'] else []) ++ Text.natDigits 16 c.toNat
    else [c]

/-- The spelling of a string, quotes included. -/
def spelling : Literal → List Char
  | .text s => '"' :: s.toList.flatMap escape ++ ['"']
  | .unpaired => '"' :: "\\ud800".toList ++ ['"']

end Literal

/-- A token. -/
inductive Token where
  | beginObject
  | endObject
  | beginArray
  | endArray
  | colon
  | comma
  | null
  | bool (b : Bool)
  | number (n : Numeral)
  | string (s : Literal)
  deriving DecidableEq, Repr

namespace Token

/-- Blanks between tokens. -/
def isSpace (c : Char) : Bool :=
  c == ' ' || c == '\t' || c == '\n' || c == '\r'

/-- Characters of words and numerals. -/
def isRun (c : Char) : Bool :=
  c.isAlphanum || c == '+' || c == '-' || c == '.'

/-- The token of a single mark. -/
def ofMark? : Char → Option Token
  | '{' => some .beginObject
  | '}' => some .endObject
  | '[' => some .beginArray
  | ']' => some .endArray
  | ':' => some .colon
  | ',' => some .comma
  | _ => none

/-- The token a run spells. -/
def ofRun? (cs : List Char) : Option Token :=
  if cs = "null".toList then some .null
  else if cs = "true".toList then some (.bool true)
  else if cs = "false".toList then some (.bool false)
  else .number <$> Numeral.ofChars? cs

/-- What has been read of the current token, the last character first. -/
inductive Reading where
  | nothing
  | run (cs : List Char)
  | string (cs : List Char)
  | escape (cs : List Char)

/-- One more character between tokens. -/
def begin? (c : Char) (done : List Token) : Option (Reading × List Token) :=
  if isSpace c then some (.nothing, done)
  else if c = '"' then some (.string [], done)
  else if isRun c then some (.run [c], done)
  else (ofMark? c).map fun t => (.nothing, t :: done)

/-- One more character of the text. The tokens before the current one are kept the last first. -/
def step? (c : Char) (done : List Token) : Reading → Option (Reading × List Token)
  | .nothing => begin? c done
  | .run cs =>
    if isRun c then some (.run (c :: cs), done)
    else do begin? c ((← ofRun? cs.reverse) :: done)
  | .string cs =>
    if c = '"' then do some (.nothing, .string (← Literal.ofChars? cs.reverse) :: done)
    else if c = '\\' then some (.escape (c :: cs), done)
    else some (.string (c :: cs), done)
  | .escape cs => some (.string (c :: cs), done)

/-- The tokens once the text ends. -/
def finish? (done : List Token) : Reading → Option (List Token)
  | .nothing => some done.reverse
  | .run cs => do some ((← ofRun? cs.reverse) :: done).reverse
  | .string _ | .escape _ => none

/-- The tokens of the rest of a text. -/
def scanFrom? (reading : Reading) (done : List Token) : List Char → Option (List Token)
  | [] => finish? done reading
  | c :: cs =>
    match step? c done reading with
    | some (reading, done) => scanFrom? reading done cs
    | none => none

/-- The tokens of a text. -/
def scan? (cs : List Char) : Option (List Token) :=
  scanFrom? .nothing [] cs

end Token

end SimdProfile.Json

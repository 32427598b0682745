/-!
# Reading UTF-8

Bytes come from callers that promise nothing. A byte that cannot stand where it does ends the well
formed part, and the bytes that go with it are taken together: the lead byte and the continuation
bytes that do fit it. The strict reader names the first such place; the lenient one puts U+FFFD for it
and goes on.
-/

namespace SimdProfile.Text.Utf8

/-- Why bytes are not UTF-8: `length` bytes from `index` on fit no character, or the bytes end inside
the character that begins at `index`. -/
inductive Fault where
  | invalid (index length : Nat)
  | incomplete (index : Nat)
  deriving DecidableEq, Repr

/-- What is said about bytes that are not UTF-8. -/
def Fault.message : Fault → String
  | .invalid index length =>
    "invalid utf-8 sequence of " ++ Nat.repr length ++ " bytes from index " ++ Nat.repr index
  | .incomplete index => "incomplete utf-8 byte sequence from index " ++ Nat.repr index

/-- What the first bytes of a text are. -/
inductive Head where
  | char (c : Char) (size : Nat)
  | invalid (size : Nat)
  | incomplete
  deriving DecidableEq, Repr

/-- Whether `b` continues a character. -/
def isContinuation (b : UInt8) : Bool :=
  0x80 ≤ b && b ≤ 0xbf

/-- Whether `b` may follow `lead`: the bounds exclude longer forms of shorter characters, surrogates
and what lies above U+10FFFF. -/
def follows (lead b : UInt8) : Bool :=
  if lead == 0xe0 then 0xa0 ≤ b && b ≤ 0xbf
  else if lead == 0xed then 0x80 ≤ b && b ≤ 0x9f
  else if lead == 0xf0 then 0x90 ≤ b && b ≤ 0xbf
  else if lead == 0xf4 then 0x80 ≤ b && b ≤ 0x8f
  else isContinuation b

/-- The number of bytes of a character with this lead byte. -/
def sizeOf? (lead : UInt8) : Option Nat :=
  if lead < 0x80 then some 1
  else if 0xc2 ≤ lead && lead ≤ 0xdf then some 2
  else if 0xe0 ≤ lead && lead ≤ 0xef then some 3
  else if 0xf0 ≤ lead && lead ≤ 0xf4 then some 4
  else none

/-- The payload of continuation bytes, appended to `high`. -/
def join (high : Nat) (bs : List UInt8) : Nat :=
  bs.foldl (fun acc b => acc * 64 + b.toNat % 64) high

/-- What the text that begins with `lead` and goes on with `rest` begins with. -/
def head (lead : UInt8) (rest : List UInt8) : Head :=
  match sizeOf? lead, rest with
  | some 1, _ => .char (Char.ofNat lead.toNat) 1
  | some 2, [] => .incomplete
  | some 2, b :: _ =>
    if isContinuation b then .char (Char.ofNat (join (lead.toNat % 32) [b])) 2 else .invalid 1
  | some 3, [] => .incomplete
  | some 3, b :: bs =>
    if !follows lead b then .invalid 1
    else match bs with
      | [] => .incomplete
      | c :: _ =>
        if isContinuation c then .char (Char.ofNat (join (lead.toNat % 16) [b, c])) 3
        else .invalid 2
  | some 4, [] => .incomplete
  | some 4, b :: bs =>
    if !follows lead b then .invalid 1
    else match bs with
      | [] => .incomplete
      | c :: cs =>
        if !isContinuation c then .invalid 2
        else match cs with
          | [] => .incomplete
          | d :: _ =>
            if isContinuation d then .char (Char.ofNat (join (lead.toNat % 8) [b, c, d])) 4
            else .invalid 3
  | _, _ => .invalid 1

/-- The strict reader from `index` on, where the first `skip` bytes belong to what was read before. -/
def decodeFrom (index skip : Nat) : List UInt8 → Except Fault (List Char)
  | [] => .ok []
  | b :: bs =>
    match skip with
    | k + 1 => decodeFrom (index + 1) k bs
    | 0 =>
      match head b bs with
      | .char c size => (c :: ·) <$> decodeFrom (index + 1) (size - 1) bs
      | .invalid size => .error (.invalid index size)
      | .incomplete => .error (.incomplete index)

/-- The characters of the bytes, or the first place where they are not UTF-8. -/
def decode (bs : List UInt8) : Except Fault String :=
  String.ofList <$> decodeFrom 0 0 bs

/-- The lenient reader, where the first `skip` bytes belong to what was read before. -/
def lossyFrom (skip : Nat) : List UInt8 → List Char
  | [] => []
  | b :: bs =>
    match skip with
    | k + 1 => lossyFrom k bs
    | 0 =>
      match head b bs with
      | .char c size => c :: lossyFrom (size - 1) bs
      | .invalid size => '\ufffd' :: lossyFrom (size - 1) bs
      | .incomplete => ['\ufffd']

/-- The characters of the bytes, U+FFFD standing for each part that is not UTF-8. -/
def lossy (bs : List UInt8) : String :=
  String.ofList (lossyFrom 0 bs)

/-- The bytes of a text. -/
def encode (s : String) : List UInt8 :=
  s.toUTF8.data.toList

end SimdProfile.Text.Utf8

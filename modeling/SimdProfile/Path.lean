import SimdProfile.Text.Utf8

/-!
# Paths

A path is a string of bytes, since not every path of the host is text. Joining keeps both parts as they
are spelled; an absolute second part replaces the first.
-/

namespace SimdProfile

/-- A path of the host. -/
structure Path where
  bytes : List UInt8
  deriving DecidableEq, Repr

namespace Path

/-- The byte that separates components. -/
def separator : UInt8 := '/'.toUInt8

/-- The path with this text. -/
def ofText (s : String) : Path := ⟨Text.Utf8.encode s⟩

/-- The text of the path, if it is text. -/
def text? (p : Path) : Option String := String.fromUTF8? ⟨p.bytes.toArray⟩

/-- The path for a reader: U+FFFD stands for what is no text. -/
def display (p : Path) : String := Text.Utf8.lossy p.bytes

/-- Whether the path begins at the root. -/
def isAbsolute (p : Path) : Bool := p.bytes.head? == some separator

/-- The path `q` seen from the directory `p`. -/
def join (p q : Path) : Path :=
  if q.isAbsolute || p.bytes.isEmpty then q
  else if p.bytes.getLast? == some separator then ⟨p.bytes ++ q.bytes⟩
  else ⟨p.bytes ++ separator :: q.bytes⟩

end Path

end SimdProfile

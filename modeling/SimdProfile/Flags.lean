import SimdProfile.Text.Blank
import SimdProfile.Text.Digits

/-!
# Profile flags

A set of flags says which kinds of region a profile records and whether it samples the hardware
counters. It is a 32-bit word; some bits are declared and have a name, and a word from outside is cut
down to those, but a set read from text keeps the bits it was given.

As text a set is the names of its flags joined by bars, what is left over as one hexadecimal number
at the end. `Flags.text` writes that form and `Flags.ofText?` reads it.
-/

namespace SimdProfile

/-- A set of profile flags. -/
structure Flags where
  bits : UInt32
  deriving DecidableEq, Repr

namespace Flags

/-- Uniform and varying conditionals. -/
def conditionals : Flags := ⟨0x2⟩
/-- Loops. -/
def loops : Flags := ⟨0x4⟩
/-- Parallel loops over elements. -/
def foreachLoops : Flags := ⟨0x8⟩
/-- Multi-way branches. -/
def switches : Flags := ⟨0x10⟩
/-- Function bodies. -/
def functions : Flags := ⟨0x20⟩
/-- Hardware counters are sampled on region entry and exit. -/
def counters : Flags := ⟨0x40⟩
/-- Every kind of region, without counters. -/
def allNoCounters : Flags := ⟨0x3e⟩
/-- Every kind of region, with counters. -/
def all : Flags := ⟨0x7e⟩

/-- The flags that have a bit of their own, by the names they are written with. -/
def declared : List (String × Flags) :=
  [("IF", conditionals), ("LOOP", loops), ("FOREACH", foreachLoops), ("SWITCH", switches),
    ("FUNCTION", functions), ("COUNTERS", counters)]

/-- Names for whole groups of flags, which are read and never written. -/
def groups : List (String × Flags) :=
  [("ALL_NO_COUNTERS", allNoCounters), ("ALL", all)]

/-- The flags in either set. -/
def union (a b : Flags) : Flags := ⟨a.bits ||| b.bits⟩

/-- Whether every flag of `b` is in `a`. -/
def contains (a b : Flags) : Bool := a.bits &&& b.bits == b.bits

/-- The declared flags of a word; all other bits are dropped. -/
def ofWord (word : UInt32) : Flags := ⟨word &&& all.bits⟩

/-- Whether the counters are sampled. -/
def readsCounters (f : Flags) : Bool := f.contains counters

/-- The bits that no declared flag names. -/
def undeclared (f : Flags) : UInt32 := f.bits &&& ~~~ all.bits

/-- The parts of the written form, in order. -/
def parts (f : Flags) : List (List Char) :=
  (declared.filter (f.contains ·.2)).map (·.1.toList) ++
    if f.undeclared == 0 then [] else [Text.hexDigits f.undeclared.toNat]

/-- The written form of a set: the empty text for the empty set. -/
def text (f : Flags) : String :=
  String.ofList (List.intercalate " | ".toList f.parts)

/-- One part of the written form: a hexadecimal number or a name. -/
def ofPart? : List Char → Option Flags
  | '0' :: 'x' :: digits => (Text.readWord 16 digits).toOption.map Flags.mk
  | name => (declared ++ groups).lookup (String.ofList name)

/-- The union of sets that are all given. -/
def unionAll? (fs : List (Option Flags)) : Option Flags :=
  fs.foldlM (fun acc f => acc.union <$> f) ⟨0⟩

/-- The set a text stands for. Blanks around a part are ignored; a text of blanks is the empty set,
and an empty part is refused. -/
def ofText? (s : String) : Option Flags :=
  if (Text.trim s.toList).isEmpty then some ⟨0⟩
  else unionAll? ((s.toList.splitOn '|').map fun part => ofPart? (Text.trim part))

end Flags

end SimdProfile

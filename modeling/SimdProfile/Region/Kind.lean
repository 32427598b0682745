import SimdProfile.Flags

/-!
# Kinds of region

The six constructs that instrumented code reports. Each has the code it is reported by, the name it is
written with, and the flag that enables it; both kinds of conditional share one flag.
-/

namespace SimdProfile

/-- A kind of profiled construct. -/
inductive RegionKind where
  | ifUniform
  | ifVarying
  | loop
  | foreach
  | switch
  | function
  deriving DecidableEq, Repr

namespace RegionKind

/-- All kinds, by ascending code. -/
def all : List RegionKind :=
  [.ifUniform, .ifVarying, .loop, .foreach, .switch, .function]

/-- The code instrumented code reports the kind by. -/
def code : RegionKind → Int32
  | .ifUniform => 0x1
  | .ifVarying => 0x2
  | .loop => 0x4
  | .foreach => 0x8
  | .switch => 0x10
  | .function => 0x20

/-- The name of the kind in reports. -/
def name : RegionKind → String
  | .ifUniform => "if_uniform"
  | .ifVarying => "if_varying"
  | .loop => "loop"
  | .foreach => "foreach"
  | .switch => "switch"
  | .function => "function"

/-- The flag that enables the kind. -/
def flag : RegionKind → Flags
  | .ifUniform | .ifVarying => .conditionals
  | .loop => .loops
  | .foreach => .foreachLoops
  | .switch => .switches
  | .function => .functions

/-- The kind with this code. -/
def ofCode? (c : Int32) : Option RegionKind :=
  all.find? (·.code == c)

/-- The kind with this name. -/
def ofName? (s : String) : Option RegionKind :=
  all.find? (·.name == s)

theorem ofCode?_code (k : RegionKind) : ofCode? k.code = some k := by
  cases k <;> decide

theorem ofName?_name (k : RegionKind) : ofName? k.name = some k := by
  cases k <;> decide

end RegionKind

end SimdProfile

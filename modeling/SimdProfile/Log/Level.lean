import SimdProfile.Error

/-!
# Levels of the log

The severities of log records, and filters that let through everything up to a level. A filter is
named by the level that is the last to pass, or is off.
-/

namespace SimdProfile.Log

/-- The severity of a record. -/
inductive Level where
  | error
  | warn
  | info
  | debug
  | trace
  deriving DecidableEq, Repr

namespace Level

/-- All levels, the most severe first. -/
def all : List Level := [.error, .warn, .info, .debug, .trace]

/-- The place of a level, the most severe one first. -/
def rank : Level → Nat
  | .error => 1
  | .warn => 2
  | .info => 3
  | .debug => 4
  | .trace => 5

/-- The name of a level, in capitals. -/
def name : Level → String
  | .error => "ERROR"
  | .warn => "WARN"
  | .info => "INFO"
  | .debug => "DEBUG"
  | .trace => "TRACE"

/-- How surprising an error is. What a report or the counters lose is an error, what the caller did
wrong is a warning, and instrumented code that runs outside any region is no surprise. -/
def ofError : Error → Level
  | .counterProgramming _ | .reportIo _ _ | .serialization _ => .error
  | .unbalancedEnd _ | .unknownRegionKind _ | .invalidArgument _ | .invalidLaneWidth _
  | .settings _ => .warn
  | .missingProfile _ | .noActiveRegion _ => .debug

end Level

/-- What is let through: all up to a level, or nothing. -/
abbrev Filter := Option Level

namespace Filter

/-- All filters. -/
def all : List Filter := none :: Level.all.map some

/-- The name of a filter, in capitals. -/
def name : Filter → String
  | none => "OFF"
  | some l => l.name

/-- Whether records of a level are let through. -/
def admits : Filter → Level → Bool
  | none, _ => false
  | some last, l => l.rank ≤ last.rank

/-- The filter with this name, in letters of either case. -/
def ofName? (s : String) : Option Filter :=
  all.find? fun f => f.name.toList == s.toList.map Char.toUpper

end Filter

end SimdProfile.Log

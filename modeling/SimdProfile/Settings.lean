import SimdProfile.Flags
import SimdProfile.LaneMask
import SimdProfile.Log.Level

/-!
# Settings

What instrumented code does not say itself: where reports go, which origin is the library, what threads
get that declare nothing, and how much is logged. Settings are valid if their lane width is that of a
target and their log level has a name that is known.
-/

namespace SimdProfile

/-- Settings, valid or not. -/
structure Settings where
  resultsRoot : Path
  libraryOrigin : String
  laneWidth : UInt32
  flags : Flags
  logLevel : String
  deriving DecidableEq, Repr

namespace Settings

/-- The settings of a host that sets nothing. -/
def default : Settings where
  resultsRoot := .ofText "."
  libraryOrigin := "stdlib.ispc"
  laneWidth := 8
  flags := .all
  logLevel := "warn"

/-- The filter of the log. -/
def logFilter (s : Settings) : Except Error Log.Filter :=
  match Log.Filter.ofName? s.logLevel with
  | some f => .ok f
  | none => .error (.settings (.logLevel s.logLevel))

/-- Whether a target has this many lanes. -/
def isLaneWidth (width : Nat) : Bool := 1 ≤ width && width ≤ maxLanes

/-- Whether the settings are valid; a wrong lane width is named before a wrong log level. -/
def validate (s : Settings) : Except Error Unit :=
  if !isLaneWidth s.laneWidth.toNat then .error (.settings (.laneWidth s.laneWidth))
  else s.logFilter.map fun _ => ()

/-- The settings, if they are valid. -/
def checked (s : Settings) : Except Error Settings := s.validate.map fun _ => s

end Settings

end SimdProfile

import SimdProfile.Settings
import SimdProfile.Text.Blank

/-!
# Settings from the environment

Five variables of the host override the default settings. The results directory and the library origin
are taken as they are. The lane width is a decimal number, the flags are a decimal number or a
hexadecimal one behind `0x`, and the log level is a name in letters of either case; blanks around these
three are ignored. What comes out has to be valid.
-/

namespace SimdProfile.Settings

/-- The variables of the host; those that are not set, or are no text, have no value. -/
structure Environment where
  resultsDir : Option String
  libraryOrigin : Option String
  lanes : Option String
  flags : Option String
  log : Option String
  deriving DecidableEq, Repr

namespace Environment

/-- The variable of the lane width. -/
def lanesName : String := "LANEPROF_LANES"

/-- The variable of the flags. -/
def flagsName : String := "LANEPROF_FLAGS"

/-- The environment of a host with these variables. -/
def ofLookup (get? : String → Option String) : Environment where
  resultsDir := get? "LANEPROF_RESULTS_DIR"
  libraryOrigin := get? "LANEPROF_LIBRARY_ORIGIN"
  lanes := get? lanesName
  flags := get? flagsName
  log := get? "LANEPROF_LOG"

end Environment

/-- A lane width. A value that is none is quoted as it was given. -/
def readLanes (value : String) : Except Error UInt32 :=
  match Text.readWord 10 (Text.trim value.toList) with
  | .ok width => .ok width
  | .error fault => .error (.settings (.unreadable Environment.lanesName value fault))

/-- A word, in the base that is marked. -/
def readMarkedWord : List Char → Except Text.IntegerFault UInt32
  | '0' :: 'x' :: digits => Text.readWord 16 digits
  | '0' :: 'X' :: digits => Text.readWord 16 digits
  | cs => Text.readWord 10 cs

/-- A set of flags. A value that is none is quoted without the blanks around it. -/
def readFlags (value : String) : Except Error Flags :=
  let cs := Text.trim value.toList
  match readMarkedWord cs with
  | .ok word => .ok (.ofWord word)
  | .error fault =>
    .error (.settings (.unreadable Environment.flagsName (String.ofList cs) fault))

/-- The name of a log level, in lower case. -/
def readLogLevel (value : String) : String :=
  String.ofList ((Text.trim value.toList).map Char.toLower)

/-- The value of a variable, or `default` if it is not set. -/
def readOr {α : Type} (default : α) (read : String → Except Error α) : Option String → Except Error α
  | none => .ok default
  | some value => read value

/-- The valid settings of an environment. -/
def ofEnvironment (env : Environment) : Except Error Settings := do
  let laneWidth ← readOr default.laneWidth readLanes env.lanes
  let flags ← readOr default.flags readFlags env.flags
  checked {
    resultsRoot := env.resultsDir.elim default.resultsRoot Path.ofText
    libraryOrigin := env.libraryOrigin.getD default.libraryOrigin
    laneWidth := laneWidth
    flags := flags
    logLevel := env.log.elim default.logLevel readLogLevel }

end SimdProfile.Settings

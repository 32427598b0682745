import SimdProfile.Path
import SimdProfile.Text.Digits

/-!
# Errors

Everything that can go wrong while profiling, by its cause. Only counters that cannot be programmed
must stop the host program; all other errors are diagnostics. `Error.code` is the stable name of a kind
of error, `Error.message` what is said about it.
-/

namespace SimdProfile

/-- Why the file system refused. -/
inductive IoFault where
  | notFound
  | notADirectory
  | isADirectory
  | alreadyExists
  | permissionDenied
  | nameTooLong
  | invalidName
  | notText
  | described (text : String)
  deriving DecidableEq, Repr

/-- What is said about a refusal of the file system. -/
def IoFault.message : IoFault → String
  | .notFound => "No such file or directory"
  | .notADirectory => "Not a directory"
  | .isADirectory => "Is a directory"
  | .alreadyExists => "File exists"
  | .permissionDenied => "Permission denied"
  | .nameTooLong => "File name too long"
  | .invalidName => "file name contained an unexpected NUL byte"
  | .notText => "stream did not contain valid UTF-8"
  | .described text => text

/-- Why a text is no report and no settings, or a value has no text. -/
inductive FormatFault where
  | notJson
  | wrongShape
  | pathIsNotText
  | described (text : String)
  deriving DecidableEq, Repr

/-- What is said about a text of the wrong form. -/
def FormatFault.message : FormatFault → String
  | .notJson => "not a JSON value"
  | .wrongShape => "value does not have the expected fields"
  | .pathIsNotText => "path contains invalid UTF-8 characters"
  | .described text => text

/-- Why an argument of a caller is refused. -/
inductive ArgumentFault where
  | missing (what : String)
  | notText (what : String) (fault : Text.Utf8.Fault)
  | described (text : String)
  deriving DecidableEq, Repr

/-- What is said about an argument. -/
def ArgumentFault.message : ArgumentFault → String
  | .missing what => what ++ " is null"
  | .notText what fault => what ++ " is not UTF-8: " ++ fault.message
  | .described text => text

/-- Why settings are refused. -/
inductive SettingsFault where
  | laneWidth (width : UInt32)
  | logLevel (name : String)
  | unreadable (setting value : String) (fault : Text.IntegerFault)
  | described (text : String)
  deriving DecidableEq, Repr

/-- What is said about settings that are refused. -/
def SettingsFault.message : SettingsFault → String
  | .laneWidth width =>
    "Default lane width must be between 1 and 64, got " ++ Nat.repr width.toNat
  | .logLevel name => "Unknown log level '" ++ name ++ "'"
  | .unreadable setting value fault =>
    "Invalid " ++ setting ++ "='" ++ value ++ "': " ++ fault.message
  | .described text => text

/-- An error of the profiler. -/
inductive Error where
  /-- The counters could not be programmed. -/
  | counterProgramming (reason : String)
  /-- The operation needs a profile and its thread has none. -/
  | missingProfile (operation : String)
  /-- A region ends where none is open. -/
  | unbalancedEnd (line : Int32)
  /-- A line is observed where no region is open. -/
  | noActiveRegion (line : Int32)
  /-- No kind of region has this code. -/
  | unknownRegionKind (code : Int32)
  /-- No target has this many lanes. -/
  | invalidLaneWidth (width : Int32)
  /-- An argument of the caller is refused. -/
  | invalidArgument (fault : ArgumentFault)
  /-- A report could not be written or loaded. -/
  | reportIo (path : Path) (fault : IoFault)
  /-- A text could not be read, or a value not written. -/
  | serialization (fault : FormatFault)
  /-- Settings are refused. -/
  | settings (fault : SettingsFault)
  deriving DecidableEq, Repr

namespace Error

/-- Whether the host program must not go on. -/
def isFatal : Error → Bool
  | .counterProgramming _ => true
  | _ => false

/-- The name of the kind of error. -/
def code : Error → String
  | .counterProgramming _ => "COUNTER_PROGRAMMING"
  | .missingProfile _ => "MISSING_CONTEXT"
  | .unbalancedEnd _ => "UNBALANCED_END"
  | .noActiveRegion _ => "NO_ACTIVE_REGION"
  | .unknownRegionKind _ => "UNKNOWN_REGION_KIND"
  | .invalidLaneWidth _ => "INVALID_LANE_WIDTH"
  | .invalidArgument _ => "INVALID_ARGUMENT"
  | .reportIo _ _ => "REPORT_IO"
  | .serialization _ => "SERIALIZATION"
  | .settings _ => "CONFIGURATION"

/-- The decimal text of a line or a code. -/
def decimal (i : Int32) : String := String.ofList (Text.intDigits i.toInt)

/-- What is said about the error. -/
def message : Error → String
  | .counterProgramming reason => "Counter subsystem programming failed: " ++ reason
  | .missingProfile operation => "No profiling context for " ++ operation
  | .unbalancedEnd line => "Region end at line " ++ decimal line ++ " without matching start"
  | .noActiveRegion line =>
    "Observation at line " ++ decimal line ++ " outside any profiled region"
  | .unknownRegionKind code =>
    "Unknown region kind " ++ String.ofList (Text.hexDigits code.toUInt32.toNat)
  | .invalidLaneWidth width => "Invalid lane width " ++ decimal width
  | .invalidArgument fault => "Invalid argument: " ++ fault.message
  | .reportIo path fault => "Report IO error at " ++ path.display ++ ": " ++ fault.message
  | .serialization fault => "Report serialization error: " ++ fault.message
  | .settings fault => "Configuration error: " ++ fault.message

end Error

end SimdProfile

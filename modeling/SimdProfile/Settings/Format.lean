import SimdProfile.Json.Fields
import SimdProfile.Json.Printer
import SimdProfile.Json.Reader
import SimdProfile.Settings

/-!
# Settings as JSON

Settings are written on one line. Reading takes the default for every field that is not given, and what
is read has to be valid. A results directory whose path is not text cannot be written.
-/

namespace SimdProfile.Settings

/-- The members of settings. -/
def toJson (s : Settings) : Except Error Json :=
  match s.resultsRoot.text? with
  | none => .error (.serialization .pathIsNotText)
  | some root =>
    .ok (.ofMembers [
      ("resultsRoot", .ofText root),
      ("libraryOrigin", .ofText s.libraryOrigin),
      ("defaultLaneWidth", .ofNat s.laneWidth.toNat),
      ("defaultFlags", .ofText s.flags.text),
      ("logLevel", .ofText s.logLevel)])

/-- The text of settings. -/
def text (s : Settings) : Except Error String := Json.compact <$> s.toJson

/-- The fields of settings. -/
def fieldNames : List String :=
  ["resultsRoot", "libraryOrigin", "defaultLaneWidth", "defaultFlags", "logLevel"]

/-- A set of flags, by its text. -/
def flags? (v : Json) : Option Flags := v.text? >>= Flags.ofText?

/-- A path, by its text. -/
def path? (v : Json) : Option Path := Path.ofText <$> v.text?

/-- Settings, valid or not. -/
def ofJson? (v : Json) : Option Settings := do
  let fields ← v.fields? fieldNames
  return {
    resultsRoot := ← Json.orDefault? fields "resultsRoot" path? default.resultsRoot
    libraryOrigin := ← Json.orDefault? fields "libraryOrigin" Json.text? default.libraryOrigin
    laneWidth := ← Json.orDefault? fields "defaultLaneWidth" Json.uint32? default.laneWidth
    flags := ← Json.orDefault? fields "defaultFlags" flags? default.flags
    logLevel := ← Json.orDefault? fields "logLevel" Json.text? default.logLevel }

/-- The valid settings a text stands for. -/
def ofText (t : String) : Except Error Settings :=
  match Json.parse? t with
  | none => .error (.serialization .notJson)
  | some v =>
    match ofJson? v with
    | none => .error (.serialization .wrongShape)
    | some s => s.checked

end SimdProfile.Settings

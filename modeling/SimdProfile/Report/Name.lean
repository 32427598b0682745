import SimdProfile.Origin
import SimdProfile.Report
import SimdProfile.Text.Digits

/-!
# Names of report files

The file of a report is named for the program, by the last component of its origin, and for the line
and the task it declares. A further report of the same three has a copy number, which the first has
not.
-/

namespace SimdProfile.Report

/-- The name of the program; a program whose origin names no source is unknown. -/
def programName (r : Report) : List Char :=
  (Origin.baseName? r.file.toList).getD "unknown".toList

/-- The characters of the name of a copy. -/
def nameChars (r : Report) (copy : Nat) : List Char :=
  r.programName ++ '.' :: Text.intDigits r.line.toInt ++ '.' :: Text.intDigits r.task.toInt ++
    (if copy = 0 then [] else '.' :: Text.natDigits 10 copy) ++ ".json".toList

/-- The file name of a copy. -/
def copyName (r : Report) (copy : Nat) : String :=
  String.ofList (r.nameChars copy)

/-- The file name of the first copy. -/
def fileName (r : Report) : String := r.copyName 0

end SimdProfile.Report

import SimdProfile.Profiler
import SimdProfile.Text.Quoted

/-!
# Summaries for a debugger

One line each for the counter service, the roster and the profiler: a name and the few fields that tell
the state.
-/

namespace SimdProfile

/-- A name and some fields with their values. -/
def summaryOf (name : String) (fields : List (String × String)) : String :=
  name ++ " \x7b " ++ ", ".intercalate (fields.map fun f => f.1 ++ ": " ++ f.2) ++ " \x7d"

/-- The counter service, by its users. -/
def Counters.Service.summary (s : Counters.Service) : String :=
  summaryOf "CounterService" [("users", Nat.repr s.users)]

/-- The roster, by the number of profiles and the library it leaves out. -/
def Roster.summary (r : Roster) : String :=
  summaryOf "Registry"
    [("active", Nat.repr r.size), ("library_origin", Text.quoted r.libraryOrigin)]

/-- The profiler, by its roster and the directory of its reports. -/
def Profiler.summary (p : Profiler) : String :=
  summaryOf "Profiler"
    [("registry", p.roster.summary), ("results", Text.quoted p.archive.directory.display)]

end SimdProfile

/-!
# Source origins

Instrumented code names the source it comes from by a path in text form. Only the last component
counts where the origin names a program: components are separated by slashes, and those that are
empty or a single dot are passed over. Two dots name no source.
-/

namespace SimdProfile.Origin

/-- The components of an origin that count. -/
def components (origin : List Char) : List (List Char) :=
  (origin.splitOn '/').filter fun c => !(c.isEmpty || c == ['.'])

/-- The last component, if there is one and it names a source. -/
def baseName? (origin : List Char) : Option (List Char) :=
  (components origin).getLast?.filter (· != ['.', '.'])

/-- Whether an origin is the library that is never instrumented, given by a path or by its base
name. No origin is, if no library is declared. -/
def isLibrary (library origin : String) : Bool :=
  !library.isEmpty && (origin == library || baseName? origin.toList == some library.toList)

end SimdProfile.Origin

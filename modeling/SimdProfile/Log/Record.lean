import SimdProfile.Log.Level

/-!
# Log records

What is handed to the log: a level, the component that speaks, and a message. A component says which
operation a message is about, and names the kind of an error next to what is said about it.
-/

namespace SimdProfile.Log

/-- A record, with its place in the source if that is known. -/
structure Record where
  level : Level
  target : String
  message : String
  file : Option String
  line : Option UInt32
  deriving DecidableEq, Repr

namespace Record

/-- A message of a component. -/
def plain (component : String) (level : Level) (message : String) : Record :=
  ⟨level, component, message, none, none⟩

/-- A message of a component about an operation. -/
def about (component : String) (level : Level) (operation message : String) : Record :=
  plain component level (operation ++ ": " ++ message)

/-- An error that an operation of a component ended in. -/
def failure (component operation : String) (e : Error) : Record :=
  plain component (.ofError e) (operation ++ " failed [" ++ e.code ++ "]: " ++ e.message)

end Record

end SimdProfile.Log

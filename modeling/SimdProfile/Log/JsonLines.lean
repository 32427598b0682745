import SimdProfile.Log.Entry

/-!
# The log as lines of JSON

A logger that writes every record it lets through as one entry on one line. The component is that of
the logger; the target of a record becomes the operation of the entry, and its place in the source, if
known, what the entry is annotated with. Each entry has the moment at which its record was handed over.
-/

namespace SimdProfile.Log

/-- A record that is handed to the log: when, and in which order the host goes through the map of its
entry. -/
structure Occasion (T : Type) where
  record : Record
  moment : T
  order : MapOrder

/-- A logger: the component it writes for, and the last level it lets through. -/
structure JsonLines where
  component : String
  minimum : Level
  deriving DecidableEq, Repr

namespace JsonLines

variable {T : Type}

/-- Whether records of a level are written. -/
def enabled (l : JsonLines) (level : Level) : Bool :=
  Filter.admits (some l.minimum) level

/-- The entry of a record. -/
def entry (l : JsonLines) (stamp : Stamp T) (o : Occasion T) : Entry T :=
  let r := o.record
  let plain := Entry.create (stamp.atMoment o.moment) r.level l.component r.target r.message
  let placed := match r.file with
    | some file => plain.annotate "file" (.ofText file)
    | none => plain
  let annotated := match r.line with
    | some line => placed.annotate "line" (.ofNat line.toNat)
    | none => placed
  annotated.arrange o.order

/-- The line of an entry. -/
def line [Timestamp T] (e : Entry T) : String := e.text ++ "\n"

/-- The entries of some records, and the stamp with the number of the next one. Only a record that is
let through uses up a number. -/
def entries (l : JsonLines) : Stamp T → List (Occasion T) → List (Entry T) × Stamp T
  | stamp, [] => ([], stamp)
  | stamp, o :: os =>
    if l.enabled o.record.level then
      let (rest, after) := l.entries stamp.next os
      (l.entry stamp o :: rest, after)
    else l.entries stamp os

/-- What is written for some records. -/
def lines [Timestamp T] (l : JsonLines) (stamp : Stamp T) (os : List (Occasion T)) : List String :=
  (l.entries stamp os).1.map line

/-- What is written for some records that are handed over at one moment. -/
def write [Timestamp T] (l : JsonLines) (stamp : Stamp T) (rs : List Record) : List String :=
  l.lines stamp (rs.map fun r => ⟨r, stamp.timestamp, .asPut⟩)

end JsonLines

end SimdProfile.Log

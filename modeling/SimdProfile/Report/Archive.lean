import SimdProfile.FileTree
import SimdProfile.Log.Event
import SimdProfile.Report.Format
import SimdProfile.Report.Name

/-!
# The archive of reports

Reports of one run land in one directory, which is named for the moment the run began and created with
the first report. A report never replaces a file: the copies of its name are tried from the first on,
until one can be created or the file system refuses for another reason than that the name is taken.
-/

namespace SimdProfile

/-- A moment of local time, to the second. -/
structure Moment where
  year : Int
  month : Nat
  day : Nat
  hour : Nat
  minute : Nat
  second : Nat
  deriving DecidableEq, Repr

namespace Moment

/-- A year: at least four digits, with a sign if it is negative or has more than four. -/
def yearDigits (year : Int) : List Char :=
  if year < 0 then '-' :: Text.padded 4 year.natAbs
  else if year ≤ 9999 then Text.padded 4 year.natAbs
  else '+' :: Text.padded 4 year.natAbs

/-- The moment as one number, from the year down to the second. -/
def stamp (m : Moment) : String :=
  String.ofList (yearDigits m.year ++ Text.padded 2 m.month ++ Text.padded 2 m.day ++
    Text.padded 2 m.hour ++ Text.padded 2 m.minute ++ Text.padded 2 m.second)

end Moment

/-- The directory of the reports of one run, and the files around it. -/
structure Archive where
  directory : Path
  disk : FileTree

namespace Archive

/-- The directory below `root` for a run that began at a moment. -/
def stampedDirectory (root : Path) (m : Moment) : Path :=
  root.join (.ofText ("profile_" ++ m.stamp))

/-- The archive of a run that began at a moment. -/
def stamped (root : Path) (m : Moment) (disk : FileTree) : Archive :=
  ⟨stampedDirectory root m, disk⟩

/-- The path of a copy of a report. -/
def pathOf (a : Archive) (r : Report) (copy : Nat) : Path :=
  a.directory.join (.ofText (r.copyName copy))

/-- The largest copy number. -/
def maxCopy : Nat := 0xffffffff

/-- One attempt to create a copy of a report. -/
def createCopy (a : Archive) (r : Report) (copy : Nat) : Except IoFault Archive :=
  (fun disk => { a with disk := disk }) <$> a.disk.createNew (a.pathOf r copy) r.text.toUTF8

/-- Creates the first copy from `copy` on whose name is free, in at most `attempts` attempts. -/
def createFrom (a : Archive) (r : Report) (copy : Nat) : Nat → Except Error (Archive × Path)
  | 0 => .error (.reportIo (a.pathOf r copy) .alreadyExists)
  | attempts + 1 =>
    match a.createCopy r copy with
    | .ok a => .ok (a, a.pathOf r copy)
    | .error .alreadyExists =>
      if copy < maxCopy then a.createFrom r (copy + 1) attempts
      else .error (.reportIo (a.pathOf r copy) .alreadyExists)
    | .error fault => .error (.reportIo (a.pathOf r copy) fault)

/-- Creates the first copy whose name is free. Each name that is taken is that of another node, so
one attempt more than there are nodes is enough. -/
def createUnique (a : Archive) (r : Report) : Except Error (Archive × Path) :=
  a.createFrom r 0 (a.disk.nodes.length + 1)

/-- Creates the directory, unless it exists. -/
def prepare (a : Archive) : Except Error Archive :=
  match a.disk.createDirectories a.directory with
  | .ok disk => .ok { a with disk := disk }
  | .error fault => .error (.reportIo a.directory fault)

/-- Writes a report. The result is the path of its file. If no file can be created, a directory may
have been. -/
def write (a : Archive) (r : Report) : Archive × Except Error Path × List Log.Event :=
  match a.prepare with
  | .error e => (a, .error e, [])
  | .ok prepared =>
    match prepared.createUnique r with
    | .error e => (prepared, .error e, [])
    | .ok (written, path) => (written, .ok path, [.reportWritten r.regions.length path])

end Archive

/-- Loads the report in a file. -/
def Report.load (disk : FileTree) (path : Path) : Except Error Report :=
  match disk.read path with
  | .error fault => .error (.reportIo path fault)
  | .ok contents =>
    match String.fromUTF8? contents with
    | none => .error (.reportIo path .notText)
    | some s => Report.ofText s

end SimdProfile

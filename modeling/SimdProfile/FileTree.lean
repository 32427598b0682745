import SimdProfile.Error

/-!
# File trees

The part of a file system that reports live in: directories and files below one root, by the list of
names that leads to them. A path is resolved name by name, from the root if it is absolute, else from
the working directory. Every name but the last has to be that of a directory; a dot stays where it is,
and two dots go up. A name has at most 255 bytes, a path at most 4095, and neither has a NUL.

Nothing can be created in a directory that is sealed.

It is assumed throughout that every directory can be searched, sealed or not, and that a descriptor is free
for every file that is opened. What a path leads to is then always found, and a request to create a file
whose name is taken is answered by `alreadyExists` and by no other fault.
-/

namespace SimdProfile

/-- The names that lead from the root to a file or directory. -/
abbrev Location := List (List UInt8)

/-- What is at a location. -/
inductive FileNode where
  | directory (isSealed : Bool)
  | file (contents : ByteArray)

/-- Directories and files below a root, which is a directory itself and not sealed, and the working
directory. -/
structure FileTree where
  nodes : List (Location × FileNode)
  working : Location

namespace FileTree

/-- The byte of a dot. -/
def dot : UInt8 := '.'.toUInt8

/-- The longest name of a file, in bytes. -/
def maxNameBytes : Nat := 255

/-- The longest path, in bytes. -/
def maxPathBytes : Nat := 4095

/-- The root alone, as the working directory. -/
def empty : FileTree := ⟨[], []⟩

/-- What is at a location. -/
def node? (t : FileTree) (loc : Location) : Option FileNode :=
  if loc = [] then some (.directory false) else t.nodes.lookup loc

/-- The tree with one more file or directory. -/
def insert (t : FileTree) (loc : Location) (n : FileNode) : FileTree :=
  { t with nodes := (loc, n) :: t.nodes }

/-- A file or directory is found where it was put. -/
theorem node?_insert_self (t : FileTree) {loc : Location} (h : loc ≠ []) (n : FileNode) :
    (t.insert loc n).node? loc = some n := by
  simp [node?, insert, h]

/-- What is put at one location changes no other. -/
theorem node?_insert_of_ne (t : FileTree) {loc other : Location} (h : other ≠ loc) (n : FileNode) :
    (t.insert loc n).node? other = t.node? other := by
  have hb : (other == loc) = false := beq_false_of_ne h
  simp [node?, insert, List.lookup_cons, hb]

/-- The tree without what is at a location. -/
def erase (t : FileTree) (loc : Location) : FileTree :=
  { t with nodes := t.nodes.filter (·.1 ≠ loc) }

/-- Whether the location is a directory, or why it is none. -/
def requireDirectory (t : FileTree) (loc : Location) : Except IoFault Unit :=
  match t.node? loc with
  | some (.directory _) => .ok ()
  | some (.file _) => .error .notADirectory
  | none => .error .notFound

/-- The tree with one more file or directory, unless the directory it goes to is sealed. -/
def place (t : FileTree) (loc : Location) (n : FileNode) : Except IoFault FileTree :=
  match t.node? loc.dropLast with
  | some (.directory true) => .error .permissionDenied
  | _ => .ok (t.insert loc n)

/-- The location that a name leads to from a directory. -/
def enter (t : FileTree) (loc : Location) (name : List UInt8) : Except IoFault Location := do
  t.requireDirectory loc
  if name = [] ∨ name = [dot] then .ok loc
  else if name = [dot, dot] then .ok loc.dropLast
  else if maxNameBytes < name.length then .error .nameTooLong
  else .ok (loc ++ [name])

/-- The names of a path, empty ones included. -/
def namesOf (p : Path) : Except IoFault (List (List UInt8)) :=
  if p.bytes.isEmpty then .error .notFound
  else if p.bytes.contains 0 then .error .invalidName
  else if maxPathBytes < p.bytes.length then .error .nameTooLong
  else .ok (p.bytes.splitOn Path.separator)

/-- Where the names of a path begin. -/
def origin (t : FileTree) (p : Path) : Location :=
  if p.isAbsolute then [] else t.working

/-- The location of a path. -/
def resolve (t : FileTree) (p : Path) : Except IoFault Location := do
  (← namesOf p).foldlM t.enter (t.origin p)

/-- The contents of a file. -/
def read (t : FileTree) (p : Path) : Except IoFault ByteArray := do
  match t.node? (← t.resolve p) with
  | some (.file contents) => .ok contents
  | some (.directory _) => .error .isADirectory
  | none => .error .notFound

/-- Creates a file; whatever has the name already is left alone, and then the answer is `alreadyExists`,
since its directory can be searched and a descriptor is free. -/
def createNew (t : FileTree) (p : Path) (contents : ByteArray) : Except IoFault FileTree := do
  let loc ← t.resolve p
  match t.node? loc with
  | some _ => .error .alreadyExists
  | none => t.place loc (.file contents)

/-- Writes a file, which may exist. -/
def write (t : FileTree) (p : Path) (contents : ByteArray) : Except IoFault FileTree := do
  let loc ← t.resolve p
  match t.node? loc with
  | some (.directory _) => .error .isADirectory
  | some (.file _) => .ok ((t.erase loc).insert loc (.file contents))
  | none => t.place loc (.file contents)

/-- Removes a file. -/
def remove (t : FileTree) (p : Path) : Except IoFault FileTree := do
  let loc ← t.resolve p
  match t.node? loc with
  | some (.file _) => .ok (t.erase loc)
  | some (.directory _) => .error .isADirectory
  | none => .error .notFound

/-- Goes to the directory with a name, which is created if there is none. -/
def enterCreating (s : FileTree × Location) (name : List UInt8) :
    Except IoFault (FileTree × Location) := do
  let loc ← s.1.enter s.2 name
  match s.1.node? loc with
  | none => .ok (← s.1.place loc (.directory false), loc)
  | some _ => .ok (s.1, loc)

/-- Creates a directory and all directories that lead to it, as far as they are missing. -/
def createDirectories (t : FileTree) (p : Path) : Except IoFault FileTree := do
  let (t, loc) ← (← namesOf p).foldlM enterCreating (t, t.origin p)
  t.requireDirectory loc
  .ok t

/-- The locations and contents of all files. -/
def files (t : FileTree) : List (Location × ByteArray) :=
  t.nodes.filterMap fun
    | (loc, .file contents) => some (loc, contents)
    | (_, .directory _) => none

end FileTree

end SimdProfile

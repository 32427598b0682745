import SimdProfile.Region
import SimdProfile.Thread

/-!
# Profiles of threads

The profile of a thread has the stack of its open entries and every region it has ever recorded. A
region is known by its key: entering it again goes on with what was recorded of it. The table says at
which place of the list of regions the region of a key is.

An entry whose kind is not enabled, or that comes from the library, is a suppressed frame: it keeps the
stack balanced and records nothing. The counter baseline stands in the frame and not with the region,
so a region that is open twice keeps both.
-/

namespace SimdProfile

/-- What a thread declares about the program it is about to run. -/
structure Declaration where
  program : String
  line : Int32
  laneWidth : UInt32
  flags : Flags
  deriving DecidableEq, Repr

/-- An open entry: of the region at a place of the list, or suppressed. -/
inductive Frame where
  | recorded (slot : Nat) (baseline : Option Snapshot)
  | suppressed (kind : RegionKind)
  deriving DecidableEq, Repr

/-- The profile of one thread. The innermost frame stands first. -/
structure ThreadProfile where
  owner : ThreadId
  declaration : Declaration
  declaredTask : Option Int32
  stack : List Frame
  regions : List Region
  table : List (RegionKey × Nat)
  nextId : RegionId

namespace ThreadProfile

/-- A profile that has recorded nothing. -/
def create (owner : ThreadId) (declaration : Declaration) : ThreadProfile where
  owner := owner
  declaration := declaration
  declaredTask := none
  stack := []
  regions := []
  table := []
  nextId := 0

/-- The task, zero if none was declared. -/
def task (p : ThreadProfile) : Int32 := p.declaredTask.getD 0

/-- The first task that is declared stays. -/
def declareTask (p : ThreadProfile) (task : Int32) : ThreadProfile :=
  { p with declaredTask := some (p.declaredTask.getD task) }

/-- The number of open entries. -/
def depth (p : ThreadProfile) : Nat := p.stack.length

/-- Whether entries of this kind are recorded. -/
def records (p : ThreadProfile) (kind : RegionKind) : Bool :=
  p.declaration.flags.contains kind.flag

/-- Whether entries and exits come with snapshots of the counters. -/
def readsCounters (p : ThreadProfile) : Bool := p.declaration.flags.readsCounters

/-- The place of the region with this key. -/
def slot? (p : ThreadProfile) (key : RegionKey) : Option Nat := p.table.lookup key

/-- The region with this key. -/
def region? (p : ThreadProfile) (key : RegionKey) : Option Region :=
  (p.slot? key).bind fun slot => p.regions[slot]?

/-- The region of a frame; a suppressed one has none. -/
def regionOf? (p : ThreadProfile) : Frame → Option Region
  | .recorded slot _ => p.regions[slot]?
  | .suppressed _ => none

/-- The kind of a frame, suppressed or not. -/
def kindOf? (p : ThreadProfile) : Frame → Option RegionKind
  | .recorded slot _ => p.regions[slot]?.map (·.key.kind)
  | .suppressed kind => some kind

/-- The region of the innermost entry. -/
def innermost? (p : ThreadProfile) : Option Region := p.stack.head?.bind p.regionOf?

/-- The kind of the innermost entry. -/
def innermostKind? (p : ThreadProfile) : Option RegionKind := p.stack.head?.bind p.kindOf?

/-- The profile with the region at a place changed. -/
def amendRegion (p : ThreadProfile) (slot : Nat) (f : Region → Region) : ThreadProfile :=
  { p with regions := p.regions.modify slot f }

/-- The id of the region at a place. -/
def idAt? (p : ThreadProfile) (slot : Nat) : Option RegionId := p.regions[slot]?.map (·.id)

/-- The place of the region with this key, which is created if there is none. A region that is known
reaches at least to the hinted end line. -/
def intern (p : ThreadProfile) (key : RegionKey) (endLine : Int32) (mask : UInt64) :
    ThreadProfile × Nat :=
  match p.slot? key with
  | some slot => (p.amendRegion slot (·.reach endLine), slot)
  | none =>
    ({ p with
        regions := p.regions ++ [.create p.nextId key endLine mask]
        table := (key, p.regions.length) :: p.table
        nextId := p.nextId + 1 },
      p.regions.length)

/-- Enters a region that is not to be recorded. -/
def suppress (p : ThreadProfile) (kind : RegionKind) : ThreadProfile :=
  { p with stack := .suppressed kind :: p.stack }

/-- Enters a region. The result is the id of the region, none if its kind is not enabled. A snapshot
counts only if the profile reads the counters. -/
def enter (p : ThreadProfile) (kind : RegionKind) (startLine endLine : Int32) (mask : UInt64)
    (snapshot : Option Snapshot) : ThreadProfile × Option RegionId :=
  if !p.records kind then (p.suppress kind, none)
  else
    let (p, slot) := p.intern ⟨startLine, kind⟩ endLine mask
    let p := p.amendRegion slot (·.countEntry)
    let baseline := if p.readsCounters then snapshot else none
    ({ p with stack := .recorded slot baseline :: p.stack }, p.idAt? slot)

/-- Leaves the innermost entry. The result is the id of its region, none if it was suppressed. There
is a sample if both ends of the entry have a snapshot. -/
def leave (p : ThreadProfile) (measure : Snapshot → Snapshot → Sample Float) (exit : Option Snapshot)
    (line : Int32) : Except Error (ThreadProfile × Option RegionId) :=
  match p.stack with
  | [] => .error (.unbalancedEnd line)
  | .suppressed _ :: rest => .ok ({ p with stack := rest }, none)
  | .recorded slot baseline :: rest =>
    let sample := baseline.bind fun before => exit.map fun after => measure before after
    let p := { p with stack := rest }.amendRegion slot (·.close sample line)
    .ok (p, p.idAt? slot)

/-- Attributes the observation of a line to the innermost entry. The result is the id of its region,
none if it is suppressed. -/
def observe (p : ThreadProfile) (line : Int32) (mask : UInt64) :
    Except Error (ThreadProfile × Option RegionId) :=
  match p.stack with
  | [] => .error (.noActiveRegion line)
  | .suppressed _ :: _ => .ok (p, none)
  | .recorded slot _ :: _ =>
    let p := p.amendRegion slot (·.observe line mask p.declaration.laneWidth.toNat)
    .ok (p, p.idAt? slot)

/-- The report of all regions, by ascending id. -/
def report (p : ThreadProfile) : Report where
  file := p.declaration.program
  line := p.declaration.line
  totalLanes := p.declaration.laneWidth
  task := p.task
  regions := (p.regions.mergeSort fun a b => a.id ≤ b.id).map (·.toRecord)

/-- An empty profile of the same thread and program. -/
def fresh (p : ThreadProfile) : ThreadProfile := create p.owner p.declaration

/-- A suppressed entry is one more open entry. -/
theorem depth_suppress (p : ThreadProfile) (kind : RegionKind) :
    (p.suppress kind).depth = p.depth + 1 := rfl

theorem stack_intern (p : ThreadProfile) (key : RegionKey) (endLine : Int32) (mask : UInt64) :
    (p.intern key endLine mask).1.stack = p.stack := by
  unfold intern
  split <;> rfl

/-- Every entry, recorded or not, is one more open entry. -/
theorem depth_enter (p : ThreadProfile) (kind : RegionKind) (startLine endLine : Int32)
    (mask : UInt64) (snapshot : Option Snapshot) :
    (p.enter kind startLine endLine mask snapshot).1.depth = p.depth + 1 := by
  unfold enter
  split
  · exact depth_suppress p kind
  · simp [depth, amendRegion, stack_intern]

end ThreadProfile

end SimdProfile

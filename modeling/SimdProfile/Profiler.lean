import SimdProfile.Report.Archive
import SimdProfile.Roster
import SimdProfile.Settings

/-!
# The profiler

One function for each operation of instrumented code. Every call names its thread, and answers with the
profiler after it, a result, and the events it reports to the log. A call that ends in an error leaves
all profiles as they were, except a `finish` that cannot write its report: the profile is removed all
the same.

Regions that begin in the library, and regions whose kind is not enabled, are tracked for balance only.
`Profiler.perform` takes any call as a value.
-/

namespace SimdProfile

/-- The state of a profiler: the profiles of all threads, the archive of their reports, and what a
thread gets that starts a region without a declaration. -/
structure Profiler where
  roster : Roster
  archive : Archive
  laneWidth : UInt32
  flags : Flags

/-- What a call answers. -/
structure Reply (α : Type) where
  profiler : Profiler
  result : Except Error α
  events : List Log.Event

/-- The answer with another form of its value. -/
def Reply.map {α β : Type} (f : α → β) (r : Reply α) : Reply β :=
  ⟨r.profiler, r.result.map f, r.events⟩

/-- A call of instrumented code. -/
inductive Call where
  | declare (origin : String) (line width : Int32) (flags : UInt32)
  | start (origin : String) (kind startLine endLine task : Int32) (mask : UInt64)
  | stop (kind line : Int32)
  | iteration (note : String) (line : Int32) (mask : UInt64) (kind : Int32)
  | branch (note : String) (line : Int32) (mask : UInt64) (kind : Int32)
  | finish
  deriving DecidableEq, Repr

/-- The value of a call that ends well. -/
inductive Answer where
  /-- The declaration is taken. -/
  | done
  /-- The region the call is recorded under, if it is. -/
  | region (id : Option RegionId)
  /-- The report is written. -/
  | written (path : Path)
  deriving DecidableEq, Repr

namespace Profiler

/-- A profiler for a run that begins at a moment. -/
def create (s : Settings) (source : Counters.Source) (begun : Moment) (disk : FileTree) : Profiler where
  roster := .create s.libraryOrigin source
  archive := .stamped s.resultsRoot begun disk
  laneWidth := s.laneWidth
  flags := s.flags

variable {α : Type}

/-- The answer of a call that is refused. -/
def refuse (p : Profiler) (e : Error) : Reply α := ⟨p, .error e, []⟩

/-- The profiler with the profile of a thread replaced. -/
def putProfile (p : Profiler) (t : ThreadId) (c : ThreadProfile) : Profiler :=
  { p with roster := p.roster.amend t fun _ => c }

/-- Takes a snapshot of the counters if one is wanted. -/
def snapshotIf (p : Profiler) (wanted : Bool) : Profiler × Option Snapshot :=
  if wanted then
    let (service, snapshot) := p.roster.service.snapshot
    ({ p with roster := { p.roster with service := service } }, some snapshot)
  else (p, none)

/-- The metrics of a pair of snapshots. -/
def measure (p : Profiler) : Snapshot → Snapshot → Sample Float :=
  p.roster.service.source.measure

/-- The lane width an argument stands for. -/
def laneWidth? (width : Int32) : Option UInt32 :=
  if 1 ≤ width.toInt ∧ width.toInt ≤ maxLanes then some (UInt32.ofNat width.toInt.toNat) else none

/-- Declares the program a thread is about to run. The first declaration of a thread stays. -/
def declare (p : Profiler) (t : ThreadId) (origin : String) (line width : Int32) (flags : UInt32) :
    Reply Unit :=
  match laneWidth? width with
  | none => p.refuse (.invalidLaneWidth width)
  | some width =>
    let (roster, result, events) := p.roster.enlist t ⟨origin, line, width, .ofWord flags⟩
    ⟨{ p with roster := roster }, result.map fun _ => (), events⟩

/-- Enters a region in the profile of a thread. -/
def enter (p : Profiler) (t : ThreadId) (c : ThreadProfile) (kind : RegionKind)
    (startLine endLine task : Int32) (mask : UInt64) : Profiler × Option RegionId :=
  let c := c.declareTask task
  let (p, snapshot) := p.snapshotIf (c.readsCounters && c.records kind)
  let (c, id) := c.enter kind startLine endLine mask snapshot
  (p.putProfile t c, id)

/-- Starts a region. The result is the id it is recorded under, none if it is not recorded. A thread
without a profile gets one with the defaults of the profiler. -/
def start (p : Profiler) (t : ThreadId) (origin : String) (kindCode startLine endLine task : Int32)
    (mask : UInt64) : Reply (Option RegionId) :=
  match RegionKind.ofCode? kindCode with
  | none => p.refuse (.unknownRegionKind kindCode)
  | some kind =>
    if p.roster.isLibrary origin then
      ⟨{ p with roster := p.roster.amend t (·.suppress kind) }, .ok none, []⟩
    else
      let (roster, result, events) := p.roster.enlist t ⟨origin, startLine, p.laneWidth, p.flags⟩
      let p := { p with roster := roster }
      match result, roster.profile? t with
      | .error e, _ => ⟨p, .error e, events⟩
      | .ok _, none => ⟨p, .ok none, events⟩
      | .ok _, some c =>
        let (p, id) := p.enter t c kind startLine endLine task mask
        ⟨p, .ok id, events⟩

/-- What is reported if the innermost region is ended as one of another kind. An unknown code is no
kind. -/
def mismatch (c : ThreadProfile) (kindCode line : Int32) : List Log.Event :=
  match RegionKind.ofCode? kindCode, c.innermostKind? with
  | some ended, some opened => if opened = ended then [] else [.kindMismatch ended opened line]
  | _, _ => []

/-- Stops the innermost region, of whatever kind it is. -/
def stop (p : Profiler) (t : ThreadId) (kindCode line : Int32) : Reply (Option RegionId) :=
  match p.roster.profile? t with
  | none => p.refuse (.missingProfile Operation.stop.name)
  | some c =>
    let (p, exit) := p.snapshotIf c.readsCounters
    let events := mismatch c kindCode line
    match c.leave p.measure exit line with
    | .error e => ⟨p, .error e, events⟩
    | .ok (c, id) => ⟨p.putProfile t c, .ok id, events⟩

/-- Observes a line for an operation. -/
def observe (p : Profiler) (operation : Operation) (t : ThreadId) (note : String) (line : Int32)
    (mask : UInt64) (kindCode : Int32) : Reply (Option RegionId) :=
  match RegionKind.ofCode? kindCode with
  | none => p.refuse (.unknownRegionKind kindCode)
  | some kind =>
    match p.roster.profile? t with
    | none => p.refuse (.missingProfile operation.name)
    | some c =>
      if !c.records kind then ⟨p, .ok none, []⟩
      else
        let events := [.observed operation note line mask c.declaration.laneWidth]
        match c.observe line mask with
        | .error e => ⟨p, .error e, events⟩
        | .ok (c, id) => ⟨p.putProfile t c, .ok id, events⟩

/-- What is reported if regions are still open. -/
def unfinished (c : ThreadProfile) : List Log.Event :=
  if c.depth = 0 then [] else [.leftOpen c.depth]

/-- Ends the profile of a thread and writes its report. The profile is removed even if the report
cannot be written. -/
def finish (p : Profiler) (t : ThreadId) : Reply Path :=
  let (roster, found, released) := p.roster.dismiss t
  match found with
  | none => p.refuse (.missingProfile Operation.finish.name)
  | some c =>
    let (archive, result, written) := p.archive.write c.report
    ⟨{ p with roster := roster, archive := archive }, result, released ++ unfinished c ++ written⟩

/-- Any call of a thread. -/
def perform (p : Profiler) (t : ThreadId) : Call → Reply Answer
  | .declare origin line width flags => (p.declare t origin line width flags).map fun _ => .done
  | .start origin kind startLine endLine task mask =>
    (p.start t origin kind startLine endLine task mask).map .region
  | .stop kind line => (p.stop t kind line).map .region
  | .iteration note line mask kind => (p.observe .iteration t note line mask kind).map .region
  | .branch note line mask kind => (p.observe .branch t note line mask kind).map .region
  | .finish => (p.finish t).map .written

end Profiler

/-- The operation of a call. -/
def Call.operation : Call → Operation
  | .declare .. => .declare
  | .start .. => .start
  | .stop .. => .stop
  | .iteration .. => .iteration
  | .branch .. => .branch
  | .finish => .finish

end SimdProfile

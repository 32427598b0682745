import SimdProfile.LaneMask
import SimdProfile.Log.Record
import SimdProfile.Operation
import SimdProfile.Region.Kind
import SimdProfile.Thread

/-!
# Events of the profiler

Everything the profiler itself reports to the log, by its cause. `Event.record` is the record of an
event: its level, the component it belongs to, its message, and its place.
-/

namespace SimdProfile.Log

/-- Something the profiler reports. -/
inductive Event where
  /-- The counters were programmed for their first user. -/
  | countersProgrammed
  /-- The counters were released by their last user. -/
  | countersReleased
  /-- The profile of a thread was begun. -/
  | profileBegun (thread : ThreadId) (program : String) (line : Int32) (laneWidth : UInt32)
      (flags : Flags)
  /-- A region was ended as one of another kind. -/
  | kindMismatch (ended opened : RegionKind) (line : Int32)
  /-- A line was observed. -/
  | observed (operation : Operation) (note : String) (line : Int32) (mask : UInt64)
      (laneWidth : UInt32)
  /-- A profile was finished with regions still open. -/
  | leftOpen (count : Nat)
  /-- A report was written. -/
  | reportWritten (regions : Nat) (path : Path)
  /-- An operation ended in an error. -/
  | failed (operation : Operation) (error : Error)
  /-- A profile was finished and its report written. -/
  | profileWritten (path : Path)

namespace Event

/-- The component that speaks of the counters. -/
def countersComponent : String := "laneprof::counters"
/-- The component that speaks of the profiles of all threads. -/
def rosterComponent : String := "laneprof::registry"
/-- The component that speaks of operations. -/
def profilerComponent : String := "laneprof::profiler"
/-- The component that speaks of reports. -/
def reportComponent : String := "laneprof::report"
/-- The component that speaks to the host. -/
def hostComponent : String := "laneprof::ffi"

/-- What is said about a profile that is begun. -/
def beginning (thread : ThreadId) (program : String) (line : Int32) (laneWidth : UInt32)
    (flags : Flags) : String :=
  "Creating profile context for " ++ thread.text ++ ": " ++ program ++ ":" ++ Error.decimal line ++
    " (" ++ Nat.repr laneWidth.toNat ++ " lanes, flags " ++
    String.ofList (Text.hexDigits flags.bits.toNat) ++ ")"

/-- The level, component and message of an event. -/
def statement : Event → Record
  | countersProgrammed => .plain countersComponent .info "Counter subsystem programmed"
  | countersReleased => .plain countersComponent .info "Counter subsystem cleaned up"
  | profileBegun thread program line laneWidth flags =>
    .plain rosterComponent .debug (beginning thread program line laneWidth flags)
  | kindMismatch ended opened line =>
    .about profilerComponent .debug Operation.stop.name
      ("region kind " ++ ended.name ++ " ends an open " ++ opened.name ++ " region at line " ++
        Error.decimal line)
  | observed operation note line mask laneWidth =>
    .about profilerComponent .trace operation.name
      ("[" ++ Error.decimal line ++ "] " ++ note ++ " " ++
        String.ofList (LaneMask.digits mask laneWidth.toNat))
  | leftOpen count =>
    .about profilerComponent .warn Operation.finish.name
      (Nat.repr count ++ " region(s) still open at completion")
  | reportWritten regions path =>
    .plain reportComponent .debug
      ("Wrote profile report with " ++ Nat.repr regions ++ " regions to " ++ path.display)
  | failed operation error => .failure hostComponent operation.name error
  | profileWritten path =>
    .about hostComponent .info Operation.finish.name ("profile written to " ++ path.display)

/-- The place of an event: the component that reports it, and its number among all events. -/
def site : Event → String × UInt32
  | countersProgrammed => (countersComponent, 1)
  | countersReleased => (countersComponent, 2)
  | profileBegun .. => (rosterComponent, 3)
  | kindMismatch .. => (profilerComponent, 4)
  | observed .. => (profilerComponent, 5)
  | leftOpen .. => (profilerComponent, 6)
  | reportWritten .. => (reportComponent, 7)
  | failed .. => (hostComponent, 8)
  | profileWritten .. => (hostComponent, 9)

/-- The record of an event. -/
def record (e : Event) : Record :=
  { e.statement with file := some e.site.1, line := some e.site.2 }

end Event

end SimdProfile.Log

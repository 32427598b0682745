import SimdProfile.Counters.Service
import SimdProfile.Origin
import SimdProfile.ThreadProfile

/-!
# The roster

The roster has at most one profile for each thread. A profile lives in a cell with a handle of its own,
a number that is never given out twice. Handles can be held outside: a profile that leaves the roster
while its handle is held leaves an empty one of the same thread and program behind for the holders, a
stray.

Beginning a profile takes a user of the counter service, and removing it gives the user back. To enlist
a thread is to look its profile up, and if there is none, to look again and begin one in a section that
no other thread can enter.
-/

namespace SimdProfile

/-- The identity of a profile, whoever holds it. -/
abbrev Handle := Nat

/-- A profile and its handle. -/
structure Cell where
  handle : Handle
  profile : ThreadProfile

/-- The profiles of all threads. -/
structure Roster where
  libraryOrigin : String
  service : Counters.Service
  cells : List (ThreadId × Cell)
  strays : List (Handle × ThreadProfile)
  held : List Handle
  nextHandle : Handle

namespace Roster

/-- A roster without profiles. -/
def create (libraryOrigin : String) (source : Counters.Source) : Roster where
  libraryOrigin := libraryOrigin
  service := .create source
  cells := []
  strays := []
  held := []
  nextHandle := 0

/-- Whether an origin is the library that is never instrumented. -/
def isLibrary (r : Roster) (origin : String) : Bool := Origin.isLibrary r.libraryOrigin origin

/-- The number of profiles. -/
def size (r : Roster) : Nat := r.cells.length

/-- The cell of a thread. -/
def cell? (r : Roster) (t : ThreadId) : Option Cell := r.cells.lookup t

/-- The handle of the profile of a thread. -/
def handle? (r : Roster) (t : ThreadId) : Option Handle := (r.cell? t).map (·.handle)

/-- The profile of a thread. -/
def profile? (r : Roster) (t : ThreadId) : Option ThreadProfile := (r.cell? t).map (·.profile)

/-- The section in which a profile is begun, unless the thread has one by now. -/
def claim (r : Roster) (t : ThreadId) (d : Declaration) :
    Roster × Except Error Handle × List Log.Event :=
  match r.handle? t with
  | some handle => (r, .ok handle, [])
  | none =>
    let (service, outcome, events) := r.service.addUser
    match outcome with
    | .error e => ({ r with service := service }, .error e, events)
    | .ok () =>
      ({ r with
          service := service
          cells := (t, ⟨r.nextHandle, .create t d⟩) :: r.cells
          nextHandle := r.nextHandle + 1 },
        .ok r.nextHandle,
        events ++ [.profileBegun t d.program d.line d.laneWidth d.flags])

/-- The handle of the profile of a thread, which is begun if there is none. The library gets no
profile. -/
def enlist (r : Roster) (t : ThreadId) (d : Declaration) :
    Roster × Except Error (Option Handle) × List Log.Event :=
  if r.isLibrary d.program then (r, .ok none, [])
  else
    match r.handle? t with
    | some handle => (r, .ok (some handle), [])
    | none =>
      let (r, outcome, events) := r.claim t d
      (r, some <$> outcome, events)

/-- The profile of a thread changed, if it has one. -/
def amend (r : Roster) (t : ThreadId) (f : ThreadProfile → ThreadProfile) : Roster :=
  { r with
    cells := r.cells.map fun entry =>
      if entry.1 = t then (entry.1, { entry.2 with profile := f entry.2.profile }) else entry }

/-- Removes and returns the profile of a thread. Its user of the counters is given back, and holders of
its handle are left with an empty profile. -/
def dismiss (r : Roster) (t : ThreadId) : Roster × Option ThreadProfile × List Log.Event :=
  match r.cell? t with
  | none => (r, none, [])
  | some cell =>
    let (service, events) := r.service.dropUser
    ({ r with
        service := service
        cells := r.cells.filter (·.1 ≠ t)
        strays :=
          if cell.handle ∈ r.held then (cell.handle, cell.profile.fresh) :: r.strays else r.strays },
      some cell.profile, events)

/-- One more holder of a handle. -/
def hold (r : Roster) (handle : Handle) : Roster := { r with held := handle :: r.held }

/-- One holder of a handle less; a stray without holders is gone. -/
def unhold (r : Roster) (handle : Handle) : Roster :=
  let held := r.held.erase handle
  { r with held := held, strays := r.strays.filter fun s => s.1 ≠ handle ∨ handle ∈ held }

/-- The profile a handle stands for. -/
def deref? (r : Roster) (handle : Handle) : Option ThreadProfile :=
  match r.cells.find? (·.2.handle == handle) with
  | some entry => some entry.2.profile
  | none => r.strays.lookup handle

/-- The profile a handle stands for changed. -/
def amendHeld (r : Roster) (handle : Handle) (f : ThreadProfile → ThreadProfile) : Roster :=
  { r with
    cells := r.cells.map fun entry =>
      if entry.2.handle = handle then (entry.1, { entry.2 with profile := f entry.2.profile })
      else entry
    strays := r.strays.map fun entry =>
      if entry.1 = handle then (entry.1, f entry.2) else entry }

end Roster

end SimdProfile

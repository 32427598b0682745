import SimdProfile.Counters
import SimdProfile.Log.Event

/-!
# The counter service

One owner of a counter source, with a count of its users. The first user has the source programmed, and
the last one releases it; a source that cannot be programmed has no users.
-/

namespace SimdProfile.Counters

/-- A counter source in use. Besides the users it counts the attempts to program the source and those
that succeeded, the releases, and the snapshots taken. -/
structure Service where
  source : Source
  users : Nat
  attempts : Nat
  programmed : Nat
  released : Nat
  taken : Nat

namespace Service

/-- A service without users. -/
def create (source : Source) : Service := ⟨source, 0, 0, 0, 0, 0⟩

/-- A failure to program the counters is fatal whatever its kind. -/
def programmingError : Error → Error
  | .counterProgramming reason => .counterProgramming reason
  | e => .counterProgramming e.message

/-- One more user. -/
def addUser (s : Service) : Service × Except Error Unit × List Log.Event :=
  if s.users = 0 then
    match s.source.failure? s.attempts with
    | some e => ({ s with attempts := s.attempts + 1 }, .error (programmingError e), [])
    | none =>
      ({ s with attempts := s.attempts + 1, programmed := s.programmed + 1, users := 1 }, .ok (),
        [.countersProgrammed])
  else ({ s with users := s.users + 1 }, .ok (), [])

/-- One user less. -/
def dropUser (s : Service) : Service × List Log.Event :=
  if s.users = 1 then
    ({ s with users := 0, released := s.released + 1 }, [.countersReleased])
  else ({ s with users := s.users - 1 }, [])

/-- Takes the next snapshot. -/
def snapshot (s : Service) : Service × Snapshot :=
  ({ s with taken := s.taken + 1 }, s.source.snapshot s.taken)

end Service

end SimdProfile.Counters

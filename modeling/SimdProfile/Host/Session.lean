import SimdProfile.Host.Call
import SimdProfile.Log.JsonLines
import SimdProfile.Settings.Environment
import SimdProfile.Settings.InForce

/-!
# Sessions

What all threads of a process share: the settings in force, one profiler, and a log on standard error.
The settings begin as those of the environment, or as the default if these are not valid. The first
call sets up the log at the level in force then, and the profiler is built from the settings in force
when it is first needed, unless the host has installed its own by then.
-/

namespace SimdProfile.Host

/-- What the threads of a process share. -/
structure Session (T : Type := String) where
  settings : Settings
  profiler? : Option Profiler
  log? : Option Log.Filter
  written : List (Log.Entry T)
  stamp : Log.Stamp T
  begun : Moment
  disk : FileTree
  aborted : Bool

namespace Session

variable {T : Type}

/-- The component of all entries of the log. -/
def component : String := "laneprof"

/-- The session of a process with an environment, before any call. -/
def launch (env : Settings.Environment) (stamp : Log.Stamp T) (begun : Moment) (disk : FileTree) :
    Session T where
  settings := (Settings.ofEnvironment env).toOption.getD .default
  profiler? := none
  log? := none
  written := []
  stamp := stamp
  begun := begun
  disk := disk
  aborted := false

/-- The profiler, which is built on first use. -/
def profiler (s : Session T) : Profiler :=
  s.profiler?.getD (.create s.settings .disabled s.begun s.disk)

/-- The session once its profiler is built. -/
def withProfiler (s : Session T) : Session T := { s with profiler? := some s.profiler }

/-- Installs a profiler of the host. It is handed back if there is one already. -/
def install (s : Session T) (settings : Settings) (source : Counters.Source) : Session T × Bool :=
  match s.profiler? with
  | some _ => (s, false)
  | none => ({ s with profiler? := some (.create settings source s.begun s.disk) }, true)

/-- Replaces the settings in force. A profiler that is built already keeps its own. -/
def configure (s : Session T) (settings : Settings) : Session T × Except Error Unit :=
  let (inForce, result) := s.settings.replace settings
  ({ s with settings := inForce }, result)

/-- The filter of the log, as the first call sets it up. -/
def logFilter (s : Session T) : Log.Filter :=
  s.log?.getD (s.settings.logFilter.toOption.getD (some .warn))

/-- Writes records to the log, each at a moment of its own and with its map gone through in an order of
its own. -/
def report (s : Session T) (records : List Log.Record) (moments : Nat → T)
    (orders : Nat → Log.MapOrder) : Session T :=
  match s.logFilter with
  | none => s
  | some last =>
    let occasions := records.mapIdx fun i r => ⟨r, moments i, orders i⟩
    let (entries, stamp) := Log.JsonLines.entries ⟨component, last⟩ s.stamp occasions
    { s with written := s.written ++ entries, stamp := stamp }

/-- A call of a thread, during which the clock shows some moments and maps are gone through in some orders.
Nothing happens once the process has stopped, and a call whose text cannot be read does not need the
profiler. -/
def call (s : Session T) (t : ThreadId) (c : RawCall)
    (moments : Nat → T := fun _ => s.stamp.timestamp)
    (orders : Nat → Log.MapOrder := fun _ => .asPut) : Session T :=
  if s.aborted then s
  else
    let s := { s with log? := some s.logFilter }
    let outcome := Host.call s.profiler t c
    let profiler? := if c.read.isOk then some outcome.profiler else s.profiler?
    let s := { s with profiler? := profiler?, aborted := outcome.aborts }
    s.report (outcome.events.map (·.record)) moments orders

end Session

end SimdProfile.Host

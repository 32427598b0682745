import SimdProfile.Error

/-!
# Hardware counters

The profiler never reads counters itself. A source hands out snapshots and derives metrics from a pair
of them; the profiler only stores snapshots and pairs the two of one entry and exit.

A source is given by what it answers: whether its `n`th attempt to be programmed fails, its `n`th
snapshot, and the metrics of a pair.
-/

namespace SimdProfile

/-- A snapshot of the counters: eight slots, whose meaning is known to the source alone. -/
structure Snapshot where
  slots : Vector UInt64 8
  deriving DecidableEq, Repr

/-- The snapshot with these slots, zeros after them. -/
def Snapshot.ofList (slots : List UInt64) : Snapshot :=
  ⟨Vector.ofFn fun i => slots.getD i 0⟩

/-- The metrics of one entry and exit. -/
structure Sample (F : Type) where
  ipc : F
  l2Hit : F
  l3Hit : F
  bytesRead : UInt64
  deriving DecidableEq, Repr

namespace Counters

/-- A source of snapshots. -/
structure Source where
  failure? : Nat → Option Error
  snapshot : Nat → Snapshot
  measure : Snapshot → Snapshot → Sample Float

/-- The source of a host without counters: it is always programmed, and every metric is zero. -/
def Source.disabled : Source where
  failure? _ := none
  snapshot _ := .ofList []
  measure _ _ := ⟨0.0, 0.0, 0.0, 0⟩

/-- What slot `i` has counted between two snapshots; counters wrap around. -/
def elapsed (before after : Snapshot) (i : Fin 8) : UInt64 :=
  after.slots[i] - before.slots[i]

/-- The ratio of what two slots have counted. -/
def ratio (before after : Snapshot) (num den : Fin 8) : Float :=
  (elapsed before after num).toFloat / (elapsed before after den).toFloat

/-- The source that plays back recorded snapshots, and zeros after them. Its first `failing` attempts
to be programmed end in `failure`, all of them if no number is given. The slots are instructions and
cycles, hits and accesses of the second and of the third cache level, and bytes. -/
def Source.recorded (snapshots : List Snapshot) (failure : Option Error) (failing : Option Nat) :
    Source where
  failure? n := if failing.all (n < ·) then failure else none
  snapshot n := snapshots.getD n (.ofList [])
  measure before after :=
    ⟨ratio before after 0 1, ratio before after 2 3, ratio before after 4 5, elapsed before after 6⟩

end Counters

end SimdProfile

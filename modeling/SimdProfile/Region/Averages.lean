import SimdProfile.Counters

/-!
# Running averages

The averages of the metrics of a region, over the samples it was given. They are kept one sample at a
time, over any type of numbers: the profiler uses native ones.
-/

namespace SimdProfile

instance natCastFloat : NatCast Float := ⟨Float.ofNat⟩

/-- The mean of `n` numbers of which `x` is the last and `mean` the mean of the others. -/
def foldMean {F : Type} [NatCast F] [Add F] [Mul F] [Div F] (mean x : F) (n : Nat) : F :=
  (mean * ((n - 1 : Nat) : F) + x) / (n : F)

/-- The averages of some samples, and the number of those. -/
structure Averages (F : Type) where
  samples : Nat
  ipc : F
  l2Hit : F
  l3Hit : F
  bytesRead : F
  deriving DecidableEq, Repr

namespace Averages

variable {F : Type}

/-- No sample: the averages are zero. -/
def empty [Zero F] : Averages F := ⟨0, 0, 0, 0, 0⟩

/-- The averages with one more sample. -/
def add [NatCast F] [Add F] [Mul F] [Div F] (a : Averages F) (s : Sample F) : Averages F :=
  let n := a.samples + 1
  { samples := n
    ipc := foldMean a.ipc s.ipc n
    l2Hit := foldMean a.l2Hit s.l2Hit n
    l3Hit := foldMean a.l3Hit s.l3Hit n
    bytesRead := foldMean a.bytesRead (s.bytesRead.toNat : F) n }

/-- The averages after an exit, which may have no sample. -/
def addExit [NatCast F] [Add F] [Mul F] [Div F] (a : Averages F) (s : Option (Sample F)) :
    Averages F :=
  s.elim a a.add

end Averages

end SimdProfile

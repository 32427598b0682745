/-!
# Lane masks

A mask is a 64-bit word: bit `i` is set while lane `i` runs. On a target of a given width only the
lowest `width` lanes exist, and every count and text here looks at those alone.

* `LaneMask.ofWidth` is the mask of all lanes of a target.
* `LaneMask.count` counts the running lanes, `LaneMask.available` those a region could have used, and
  `LaneMask.isFull` says whether the two agree.
* `LaneMask.digits` writes the lanes as ones and zeros, the highest lane first.
-/

namespace SimdProfile

/-- The widest target: a mask has one bit a lane. -/
def maxLanes : Nat := 64

namespace LaneMask

/-- All lanes of a target `width` lanes wide. -/
def ofWidth (width : Nat) : UInt64 :=
  if width < maxLanes then (1 <<< UInt64.ofNat width) - 1 else 0xffffffffffffffff

/-- Number of lanes of the target that run under `mask`. -/
def count (mask : UInt64) (width : Nat) : Nat :=
  (mask &&& ofWidth width).toBitVec.cpop.toNat

/-- Lanes a region could use that was entered with `initial` and now runs `used` of them: a join
after the entry can bring lanes back, so it is never less than `used`. -/
def available (initial : UInt64) (used width : Nat) : Nat :=
  max (count initial width) used

/-- Whether every available lane runs. -/
def isFull (mask initial : UInt64) (width : Nat) : Bool :=
  count mask width == available initial (count mask width) width

/-- The lanes of the target, the highest first, each `1` or `0`. -/
def digits (mask : UInt64) (width : Nat) : List Char :=
  (List.range (min width maxLanes)).reverse.map fun lane =>
    if mask.toBitVec.getLsbD lane then '1' else '0'

/-- There is a digit for each lane of the target. -/
theorem length_digits (mask : UInt64) (width : Nat) :
    (digits mask width).length = min width maxLanes := by
  simp [digits]

/-- A region can use at least the lanes that run. -/
theorem le_available (initial : UInt64) (used width : Nat) : used ≤ available initial used width :=
  Nat.le_max_right _ _

end LaneMask

end SimdProfile

import SimdProfile.Decimal.Binary64
import SimdProfile.Region.Kind

/-!
# Reports

What one thread has recorded, as plain data. Numbers that are not whole are kept by their bits, so two
reports are equal exactly when they say the same.
-/

namespace SimdProfile

/-- The share observed at one line. -/
structure LinePercent where
  line : Int32
  percent : Binary64
  deriving DecidableEq, Repr

/-- What was recorded of one region. -/
structure RegionRecord where
  id : UInt64
  kind : RegionKind
  startLine : Int32
  endLine : Int32
  initialMask : UInt64
  entryCount : UInt64
  ipc : Binary64
  l2Hit : Binary64
  l3Hit : Binary64
  bytesRead : Binary64
  laneUsage : List LinePercent
  fullMask : List LinePercent
  deriving DecidableEq, Repr

/-- What one thread has recorded. -/
structure Report where
  file : String
  line : Int32
  totalLanes : UInt32
  task : Int32
  regions : List RegionRecord
  deriving DecidableEq, Repr

/-- The first region with this id. -/
def Report.region? (r : Report) (id : UInt64) : Option RegionRecord :=
  r.regions.find? (·.id == id)

end SimdProfile

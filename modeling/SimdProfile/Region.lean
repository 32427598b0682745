import SimdProfile.LaneMask
import SimdProfile.Region.Averages
import SimdProfile.Region.Histogram
import SimdProfile.Report

/-!
# Regions

A region gathers every dynamic entry into one static construct of the source: how often it was entered,
how far it was seen to reach, the averages of its counter samples, and what was observed at its lines.
-/

namespace SimdProfile

/-- The static identity of a region inside one profile. -/
structure RegionKey where
  startLine : Int32
  kind : RegionKind
  deriving DecidableEq, Repr

/-- The number of a region, in the order of creation. -/
abbrev RegionId := Nat

/-- What has been recorded of a region. -/
structure Region where
  id : RegionId
  key : RegionKey
  endLine : Int32
  initialMask : UInt64
  entries : Nat
  averages : Averages Float
  laneUsage : Histogram
  fullMask : Histogram

namespace Region

/-- A region before its first entry is counted. -/
def create (id : RegionId) (key : RegionKey) (endLine : Int32) (initialMask : UInt64) : Region where
  id := id
  key := key
  endLine := endLine
  initialMask := initialMask
  entries := 0
  averages := .empty
  laneUsage := .empty
  fullMask := .empty

/-- One more entry. -/
def countEntry (r : Region) : Region := { r with entries := r.entries + 1 }

/-- The region reaches at least to `line`: neither a hint nor a single exit is its end for sure. -/
def reach (r : Region) (line : Int32) : Region := { r with endLine := max r.endLine line }

/-- The end of an entry at `line`, with its counter sample if there is one. -/
def close (r : Region) (sample : Option (Sample Float)) (line : Int32) : Region :=
  { r.reach line with averages := r.averages.addExit sample }

/-- The observation that `line` ran under `mask` on a target `width` lanes wide. -/
def observe (r : Region) (line : Int32) (mask : UInt64) (width : Nat) : Region :=
  let used := LaneMask.count mask width
  let available := LaneMask.available r.initialMask used width
  { r with
    laneUsage := r.laneUsage.add line width used
    fullMask := r.fullMask.add line 1 (if used == available then 1 else 0) }

/-- The shares of a histogram, by ascending line. -/
def percents (h : Histogram) : List LinePercent :=
  h.lines.map fun l => ⟨l.1, .ofFloat l.2.percent⟩

/-- The record of the region. -/
def toRecord (r : Region) : RegionRecord where
  id := UInt64.ofNat r.id
  kind := r.key.kind
  startLine := r.key.startLine
  endLine := r.endLine
  initialMask := r.initialMask
  entryCount := UInt64.ofNat r.entries
  ipc := .ofFloat r.averages.ipc
  l2Hit := .ofFloat r.averages.l2Hit
  l3Hit := .ofFloat r.averages.l3Hit
  bytesRead := .ofFloat r.averages.bytesRead
  laneUsage := percents r.laneUsage
  fullMask := percents r.fullMask

end Region

end SimdProfile

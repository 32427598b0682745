import SimdProfile.Error
import SimdProfile.Json.Fields
import SimdProfile.Json.Printer
import SimdProfile.Json.Reader
import SimdProfile.Report

/-!
# Reports as JSON

Reports are written with every element on a line of its own, fields in the order they are declared. A
number that is not finite is written as null, which no field reads. Reading asks for every field but
the entry count, which older reports do not have.
-/

namespace SimdProfile

namespace LinePercent

/-- The members of a share. -/
def toJson (p : LinePercent) : Json :=
  .ofMembers [("line", .ofInt p.line.toInt), ("percent", .ofBinary64 p.percent)]

/-- A share. -/
def ofJson? (v : Json) : Option LinePercent := do
  let fields ← v.fields? ["line", "percent"]
  return {
    line := ← Json.required? fields "line" Json.int32?
    percent := ← Json.required? fields "percent" Json.binary64? }

end LinePercent

namespace RegionRecord

/-- The members of a record. -/
def toJson (r : RegionRecord) : Json :=
  .ofMembers [
    ("region_id", .ofNat r.id.toNat),
    ("region_type", .ofText r.kind.name),
    ("start_line", .ofInt r.startLine.toInt),
    ("end_line", .ofInt r.endLine.toInt),
    ("initial_mask", .ofNat r.initialMask.toNat),
    ("entry_count", .ofNat r.entryCount.toNat),
    ("ipc", .ofBinary64 r.ipc),
    ("l2_hit", .ofBinary64 r.l2Hit),
    ("l3_hit", .ofBinary64 r.l3Hit),
    ("bytes_read", .ofBinary64 r.bytesRead),
    ("lane_usage", .array (r.laneUsage.map LinePercent.toJson)),
    ("full_mask_percentage", .array (r.fullMask.map LinePercent.toJson))]

/-- The fields of a record. -/
def fieldNames : List String :=
  ["region_id", "region_type", "start_line", "end_line", "initial_mask", "entry_count", "ipc",
    "l2_hit", "l3_hit", "bytes_read", "lane_usage", "full_mask_percentage"]

/-- A kind of region, by its name. -/
def kind? (v : Json) : Option RegionKind :=
  v.alternative? >>= RegionKind.ofName?

/-- A record. -/
def ofJson? (v : Json) : Option RegionRecord := do
  let fields ← v.fields? fieldNames
  return {
    id := ← Json.required? fields "region_id" Json.uint64?
    kind := ← Json.required? fields "region_type" kind?
    startLine := ← Json.required? fields "start_line" Json.int32?
    endLine := ← Json.required? fields "end_line" Json.int32?
    initialMask := ← Json.required? fields "initial_mask" Json.uint64?
    entryCount := ← Json.orDefault? fields "entry_count" Json.uint64? 0
    ipc := ← Json.required? fields "ipc" Json.binary64?
    l2Hit := ← Json.required? fields "l2_hit" Json.binary64?
    l3Hit := ← Json.required? fields "l3_hit" Json.binary64?
    bytesRead := ← Json.required? fields "bytes_read" Json.binary64?
    laneUsage := ← Json.required? fields "lane_usage" (Json.list? LinePercent.ofJson?)
    fullMask := ← Json.required? fields "full_mask_percentage" (Json.list? LinePercent.ofJson?) }

end RegionRecord

namespace Report

/-- The members of a report. -/
def toJson (r : Report) : Json :=
  .ofMembers [
    ("file", .ofText r.file),
    ("line", .ofInt r.line.toInt),
    ("total_num_lanes", .ofNat r.totalLanes.toNat),
    ("task", .ofInt r.task.toInt),
    ("regions", .array (r.regions.map RegionRecord.toJson))]

/-- A report. -/
def ofJson? (v : Json) : Option Report := do
  let fields ← v.fields? ["file", "line", "total_num_lanes", "task", "regions"]
  return {
    file := ← Json.required? fields "file" Json.text?
    line := ← Json.required? fields "line" Json.int32?
    totalLanes := ← Json.required? fields "total_num_lanes" Json.uint32?
    task := ← Json.required? fields "task" Json.int32?
    regions := ← Json.required? fields "regions" (Json.list? RegionRecord.ofJson?) }

/-- The text of a report. -/
def text (r : Report) : String := r.toJson.pretty

/-- The report a text stands for. -/
def ofText (s : String) : Except Error Report :=
  match Json.parse? s with
  | none => .error (.serialization .notJson)
  | some v =>
    match ofJson? v with
    | none => .error (.serialization .wrongShape)
    | some r => .ok r

end Report

end SimdProfile

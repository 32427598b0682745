import SimdProfile.Proofs.Archive
import SimdProfile.Proofs.Json.Fields

/-!
# Reports read back

A report is read from its own text exactly as it was if all its numbers are finite, and is refused
otherwise, since a number that is not finite is written as null. Whatever text a report is read from,
its numbers are finite.
-/

namespace SimdProfile

/-! ### Shares -/

namespace LinePercent

/-- Whether the share is a finite number. -/
def isFinite (p : LinePercent) : Bool :=
  p.percent.isFinite

theorem ofJson?_toJson (p : LinePercent) : ofJson? p.toJson = Option.guard isFinite p := by
  rw [Option.guard, ← Bool.and_true p.isFinite]
  unfold ofJson?
  refine Json.read_bind (Json.fields?_ofMembers rfl (by decide)) ?_
  refine Json.read_bind (Json.int32?_ofInt p.line) ?_
  exact Json.guard_bind (Json.binary64?_ofBinary64 p.percent) rfl

theorem isFinite_of_ofJson? {v : Json} {p : LinePercent} (h : ofJson? v = some p) : p.isFinite := by
  unfold ofJson? at h
  obtain ⟨fields, -, h⟩ := Option.bind_eq_some_iff.mp h
  obtain ⟨line, -, h⟩ := Option.bind_eq_some_iff.mp h
  obtain ⟨percent, read, h⟩ := Option.bind_eq_some_iff.mp h
  cases h
  exact Json.isFinite_of_required? read

theorem isFinite_of_list? {v : Json} {ps : List LinePercent}
    (h : Json.list? ofJson? v = some ps) : ps.all isFinite := by
  refine List.all_eq_true.mpr fun p member => ?_
  obtain ⟨w, read⟩ := Json.exists_of_list? h p member
  exact isFinite_of_ofJson? read

end LinePercent

/-! ### Records of regions -/

namespace RegionRecord

/-- Whether all numbers of the record are finite. -/
def isFinite (r : RegionRecord) : Bool :=
  [r.ipc, r.l2Hit, r.l3Hit, r.bytesRead].all Binary64.isFinite &&
    [r.laneUsage, r.fullMask].all (·.all LinePercent.isFinite)

theorem kind?_ofText (k : RegionKind) : kind? (.ofText k.name) = some k :=
  RegionKind.ofName?_name k

theorem ofJson?_toJson (r : RegionRecord) : ofJson? r.toJson = Option.guard isFinite r := by
  have numbers : r.isFinite = (r.ipc.isFinite && (r.l2Hit.isFinite && (r.l3Hit.isFinite &&
      (r.bytesRead.isFinite && (r.laneUsage.all LinePercent.isFinite &&
        (r.fullMask.all LinePercent.isFinite && true)))))) := by
    simp only [isFinite, List.all_cons, List.all_nil, Bool.and_true, Bool.and_assoc]
  rw [Option.guard, numbers]
  unfold ofJson?
  refine Json.read_bind (Json.fields?_ofMembers rfl (by decide)) ?_
  refine Json.read_bind (Json.uint64?_ofNat r.id) ?_
  refine Json.read_bind (kind?_ofText r.kind) ?_
  refine Json.read_bind (Json.int32?_ofInt r.startLine) ?_
  refine Json.read_bind (Json.int32?_ofInt r.endLine) ?_
  refine Json.read_bind (Json.uint64?_ofNat r.initialMask) ?_
  refine Json.read_bind (Json.uint64?_ofNat r.entryCount) ?_
  refine Json.guard_bind (Json.binary64?_ofBinary64 r.ipc) ?_
  refine Json.guard_bind (Json.binary64?_ofBinary64 r.l2Hit) ?_
  refine Json.guard_bind (Json.binary64?_ofBinary64 r.l3Hit) ?_
  refine Json.guard_bind (Json.binary64?_ofBinary64 r.bytesRead) ?_
  refine Json.guard_bind (Json.list?_map LinePercent.ofJson?_toJson r.laneUsage) ?_
  exact Json.guard_bind (Json.list?_map LinePercent.ofJson?_toJson r.fullMask) rfl

/-- The record is what its fields are read as. -/
structure Reads (fields : List (String × Json)) (r : RegionRecord) : Prop where
  id : Json.required? fields "region_id" Json.uint64? = some r.id
  kind : Json.required? fields "region_type" kind? = some r.kind
  startLine : Json.required? fields "start_line" Json.int32? = some r.startLine
  endLine : Json.required? fields "end_line" Json.int32? = some r.endLine
  initialMask : Json.required? fields "initial_mask" Json.uint64? = some r.initialMask
  entryCount : Json.orDefault? fields "entry_count" Json.uint64? 0 = some r.entryCount
  ipc : Json.required? fields "ipc" Json.binary64? = some r.ipc
  l2Hit : Json.required? fields "l2_hit" Json.binary64? = some r.l2Hit
  l3Hit : Json.required? fields "l3_hit" Json.binary64? = some r.l3Hit
  bytesRead : Json.required? fields "bytes_read" Json.binary64? = some r.bytesRead
  laneUsage : Json.required? fields "lane_usage" (Json.list? LinePercent.ofJson?) = some r.laneUsage
  fullMask : Json.required? fields "full_mask_percentage" (Json.list? LinePercent.ofJson?) =
    some r.fullMask

theorem ofJson?_eq_some_iff {v : Json} {r : RegionRecord} :
    ofJson? v = some r ↔ ∃ fields, v.fields? fieldNames = some fields ∧ Reads fields r := by
  unfold ofJson?
  constructor
  · intro h
    obtain ⟨fields, told, h⟩ := Option.bind_eq_some_iff.mp h
    obtain ⟨id, readId, h⟩ := Option.bind_eq_some_iff.mp h
    obtain ⟨kind, readKind, h⟩ := Option.bind_eq_some_iff.mp h
    obtain ⟨startLine, readStart, h⟩ := Option.bind_eq_some_iff.mp h
    obtain ⟨endLine, readEnd, h⟩ := Option.bind_eq_some_iff.mp h
    obtain ⟨mask, readMask, h⟩ := Option.bind_eq_some_iff.mp h
    obtain ⟨entries, readEntries, h⟩ := Option.bind_eq_some_iff.mp h
    obtain ⟨ipc, readIpc, h⟩ := Option.bind_eq_some_iff.mp h
    obtain ⟨l2Hit, readL2, h⟩ := Option.bind_eq_some_iff.mp h
    obtain ⟨l3Hit, readL3, h⟩ := Option.bind_eq_some_iff.mp h
    obtain ⟨bytes, readBytes, h⟩ := Option.bind_eq_some_iff.mp h
    obtain ⟨usage, readUsage, h⟩ := Option.bind_eq_some_iff.mp h
    obtain ⟨full, readFull, h⟩ := Option.bind_eq_some_iff.mp h
    cases h
    exact ⟨fields, told, readId, readKind, readStart, readEnd, readMask, readEntries, readIpc, readL2,
      readL3, readBytes, readUsage, readFull⟩
  · rintro ⟨fields, told, reads⟩
    refine Json.read_bind told ?_
    refine Json.read_bind reads.id ?_
    refine Json.read_bind reads.kind ?_
    refine Json.read_bind reads.startLine ?_
    refine Json.read_bind reads.endLine ?_
    refine Json.read_bind reads.initialMask ?_
    refine Json.read_bind reads.entryCount ?_
    refine Json.read_bind reads.ipc ?_
    refine Json.read_bind reads.l2Hit ?_
    refine Json.read_bind reads.l3Hit ?_
    refine Json.read_bind reads.bytesRead ?_
    refine Json.read_bind reads.laneUsage ?_
    exact Json.read_bind reads.fullMask rfl

theorem isFinite_of_ofJson? {v : Json} {r : RegionRecord} (h : ofJson? v = some r) : r.isFinite := by
  obtain ⟨fields, -, reads⟩ := ofJson?_eq_some_iff.mp h
  obtain ⟨_, readUsage⟩ := Json.exists_of_required? reads.laneUsage
  obtain ⟨_, readFull⟩ := Json.exists_of_required? reads.fullMask
  simp only [isFinite, List.all_cons, List.all_nil, Bool.and_true, Bool.and_eq_true]
  exact ⟨⟨Json.isFinite_of_required? reads.ipc, Json.isFinite_of_required? reads.l2Hit,
    Json.isFinite_of_required? reads.l3Hit, Json.isFinite_of_required? reads.bytesRead⟩,
    LinePercent.isFinite_of_list? readUsage, LinePercent.isFinite_of_list? readFull⟩

end RegionRecord

/-! ### Reports -/

namespace Report

/-- Whether all numbers of the report are finite. -/
def isFinite (r : Report) : Bool :=
  r.regions.all RegionRecord.isFinite

theorem ofJson?_toJson (r : Report) : ofJson? r.toJson = Option.guard isFinite r := by
  rw [Option.guard, ← Bool.and_true r.isFinite]
  unfold ofJson?
  refine Json.read_bind (Json.fields?_ofMembers rfl (by decide)) ?_
  refine Json.read_bind (Json.text?_ofText r.file) ?_
  refine Json.read_bind (Json.int32?_ofInt r.line) ?_
  refine Json.read_bind (Json.uint32?_ofNat r.totalLanes) ?_
  refine Json.read_bind (Json.int32?_ofInt r.task) ?_
  exact Json.guard_bind (Json.list?_map RegionRecord.ofJson?_toJson r.regions) rfl

/-- The report is what its fields are read as. -/
structure Reads (fields : List (String × Json)) (r : Report) : Prop where
  file : Json.required? fields "file" Json.text? = some r.file
  line : Json.required? fields "line" Json.int32? = some r.line
  totalLanes : Json.required? fields "total_num_lanes" Json.uint32? = some r.totalLanes
  task : Json.required? fields "task" Json.int32? = some r.task
  regions : Json.required? fields "regions" (Json.list? RegionRecord.ofJson?) = some r.regions

theorem ofJson?_eq_some_iff {v : Json} {r : Report} : ofJson? v = some r ↔
    ∃ fields, v.fields? ["file", "line", "total_num_lanes", "task", "regions"] = some fields ∧
      Reads fields r := by
  unfold ofJson?
  constructor
  · intro h
    obtain ⟨fields, told, h⟩ := Option.bind_eq_some_iff.mp h
    obtain ⟨file, readFile, h⟩ := Option.bind_eq_some_iff.mp h
    obtain ⟨line, readLine, h⟩ := Option.bind_eq_some_iff.mp h
    obtain ⟨lanes, readLanes, h⟩ := Option.bind_eq_some_iff.mp h
    obtain ⟨task, readTask, h⟩ := Option.bind_eq_some_iff.mp h
    obtain ⟨regions, readRegions, h⟩ := Option.bind_eq_some_iff.mp h
    cases h
    exact ⟨fields, told, readFile, readLine, readLanes, readTask, readRegions⟩
  · rintro ⟨fields, told, reads⟩
    refine Json.read_bind told ?_
    refine Json.read_bind reads.file ?_
    refine Json.read_bind reads.line ?_
    refine Json.read_bind reads.totalLanes ?_
    refine Json.read_bind reads.task ?_
    exact Json.read_bind reads.regions rfl

theorem isFinite_of_ofJson? {v : Json} {r : Report} (h : ofJson? v = some r) : r.isFinite := by
  obtain ⟨fields, -, reads⟩ := ofJson?_eq_some_iff.mp h
  obtain ⟨_, read⟩ := Json.exists_of_required? reads.regions
  refine List.all_eq_true.mpr fun record member => ?_
  obtain ⟨w, read⟩ := Json.exists_of_list? read record member
  exact RegionRecord.isFinite_of_ofJson? read

theorem ofText_eq {s : String} {v : Json} {r : Report} (parsed : Json.parse? s = some v)
    (shape : ofJson? v = some r) : ofText s = .ok r := by
  simp only [ofText, parsed, shape]

/-- A report is read from its own text if it is finite, and has the wrong shape otherwise. -/
theorem ofText_text (r : Report) :
    ofText r.text = if r.isFinite then .ok r else .error (.serialization .wrongShape) := by
  rw [ofText, text, Json.parse?_pretty]
  cases finite : r.isFinite <;> simp [ofJson?_toJson, Option.guard, finite]

theorem isFinite_of_ofText {s : String} {r : Report} (h : ofText s = .ok r) : r.isFinite := by
  unfold ofText at h
  split at h
  · cases h
  · split at h
    · cases h
    · next read =>
      cases h
      exact isFinite_of_ofJson? read

/-- Reading undoes writing for every finite report, and every report that is read from some text is
finite, so that writing it and reading it again changes nothing. -/
theorem reading_undoes_writing :
    (∀ r : Report, r.isFinite → ofText r.text = .ok r) ∧
    ∀ (s : String) (r : Report), ofText s = .ok r → r.isFinite ∧ ofText r.text = .ok r := by
  have finite : ∀ r : Report, r.isFinite → ofText r.text = .ok r := fun r finite => by
    rw [ofText_text, if_pos finite]
  exact ⟨finite, fun s r read => ⟨isFinite_of_ofText read, finite r (isFinite_of_ofText read)⟩⟩

/-- A report with the least and greatest numbers, a negative zero and a file that needs every escape. -/
def extremes : Report where
  file := "a\"b\\c\n\x00\x1f\u00e9\u2028"
  line := -2147483648
  totalLanes := 4294967295
  task := 2147483647
  regions := [{
    id := 18446744073709551615
    kind := .foreach
    startLine := -1
    endLine := 0
    initialMask := 0xffffffffffffffff
    entryCount := 0
    ipc := ⟨0x8000000000000000⟩
    l2Hit := ⟨0x8000000000000001⟩
    l3Hit := ⟨0x7fefffffffffffff⟩
    bytesRead := ⟨0x3fb999999999999a⟩
    laneUsage := [⟨3, ⟨0x0010000000000000⟩⟩, ⟨4, ⟨0x4059000000000000⟩⟩]
    fullMask := [] }]

/-- A report as another writer would spell it: members in another order and one that no field has, a
record as an array, and numbers with exponents. -/
def foreign : Json :=
  let small (digits : Nat) : Json.Exponent := ⟨true, some true, .zero, Digit.ofNat digits⟩
  .ofMembers [("task", .ofInt 7), ("note", .null), ("file", .ofText "kernel.ispc"), ("line", .ofInt 1),
    ("total_num_lanes", .ofNat 8), ("regions", .array [.array [.ofNat 0, .ofText "loop", .ofInt 3,
      .ofInt 6, .ofNat 255, .ofNat 2, .number ⟨false, 15, [], some (small 1)⟩, .ofInt 1,
      .number ⟨true, 0, [.zero], none⟩, .number ⟨false, 1, [], some (small 400)⟩,
      .array [.array [.ofInt 4,
        .number ⟨false, 1, [], some ⟨false, some false, .zero, Digit.ofNat 2⟩⟩]], .array []]])]

theorem reading_undoes_writing_of_extremes :
    (extremes.isFinite ∧ ofText extremes.text = .ok extremes) ∧
      ∃ r, ofText foreign.compact = .ok r ∧ r.regions ≠ [] ∧ r.isFinite ∧ ofText r.text = .ok r := by
  have finite : extremes.isFinite := by decide +kernel
  have fields : ofJson? foreign = some ⟨"kernel.ispc", 1, 8, 7, [⟨0, .loop, 3, 6, 255, 2,
      ⟨0x3ff8000000000000⟩, ⟨0x3ff0000000000000⟩, ⟨0x8000000000000000⟩, ⟨0⟩,
      [⟨4, ⟨0x4059000000000000⟩⟩], []⟩]⟩ := by
    decide +kernel
  have read := ofText_eq (Json.parse?_compact foreign) fields
  exact ⟨⟨finite, reading_undoes_writing.1 extremes finite⟩, _, read, List.cons_ne_nil _ _,
    reading_undoes_writing.2 _ _ read⟩

end Report

namespace Archive

theorem fromUTF8?_toUTF8 (s : String) : String.fromUTF8? s.toUTF8 = some s := by
  rw [String.fromUTF8?, String.toUTF8_eq_toByteArray, dif_pos s.isValidUTF8]
  rfl

variable {a : Archive} {r : Report} {path : Path}

/-- A report that was written is loaded as it was if its numbers are finite, and cannot be loaded
otherwise. -/
theorem written_report_loads_if_finite (written : (a.write r).2.1 = .ok path) :
    Report.load (a.write r).1.disk path =
      if r.isFinite then .ok r else .error (.serialization .wrongShape) := by
  obtain ⟨-, contents⟩ := read_of_write written
  rw [Report.load, contents]
  simp only [fromUTF8?_toUTF8, Report.ofText_text]

/-- A report of one loop whose counters did not move between the entry and the exit. -/
def sampledOverNoCycles : Report where
  file := "kernel"
  line := 1
  totalLanes := 8
  task := 0
  regions := [⟨0, .loop, 3, 6, 0xff, 1, ⟨0x7ff8000000000000⟩, ⟨0x7ff8000000000000⟩,
    ⟨0x7ff8000000000000⟩, ⟨0⟩, [], []⟩]

theorem written_report_of_no_cycles_not_loaded :
    ((⟨.ofText "out", .empty⟩ : Archive).write sampledOverNoCycles).2.1 =
        .ok ((⟨.ofText "out", .empty⟩ : Archive).pathOf sampledOverNoCycles 0) ∧
      Report.load ((⟨.ofText "out", .empty⟩ : Archive).write sampledOverNoCycles).1.disk
        ((⟨.ofText "out", .empty⟩ : Archive).pathOf sampledOverNoCycles 0) =
          .error (.serialization .wrongShape) := by
  have written : ((⟨.ofText "out", .empty⟩ : Archive).write sampledOverNoCycles).2.1 =
      .ok ((⟨.ofText "out", .empty⟩ : Archive).pathOf sampledOverNoCycles 0) := by
    rfl
  have infinite : ¬ sampledOverNoCycles.isFinite := by decide +kernel
  exact ⟨written, (written_report_loads_if_finite written).trans (if_neg infinite)⟩

end Archive

end SimdProfile

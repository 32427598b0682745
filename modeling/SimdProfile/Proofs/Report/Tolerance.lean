import SimdProfile.Proofs.Json.Schema
import SimdProfile.Proofs.Report

/-!
# Reports in other forms

A report is read not only from the text it is written to. The members of its objects may stand in another
order, there may be more of them, with any values, and there may be any blanks around the tokens; and the
entry counts may be missing, which are then zero. Nothing else may be missing, and no member be repeated.
-/

namespace SimdProfile

open Json (Schema Assembles assembles_done)

namespace LinePercent

/-- What is looked at of a share. -/
def schema : Schema := .record ["line", "percent"] [] fun _ => .value

theorem governs_ofJson? : schema.Governs ofJson? := by
  unfold ofJson?
  refine Assembles.governs ?_
  refine .required (Schema.governs_value _) fun line => ?_
  refine .required (Schema.governs_value _) fun percent => ?_
  exact assembles_done _

end LinePercent

namespace RegionRecord

/-- What is looked at of a record. The entry count need not be given. -/
def schema : Schema :=
  .record fieldNames ["entry_count"] fun name =>
    if name = "lane_usage" ∨ name = "full_mask_percentage" then .list LinePercent.schema else .value

theorem governs_ofJson? : schema.Governs ofJson? := by
  unfold ofJson?
  refine Assembles.governs ?_
  refine .required (Schema.governs_value _) fun id => ?_
  refine .required (Schema.governs_value _) fun kind => ?_
  refine .required (Schema.governs_value _) fun startLine => ?_
  refine .required (Schema.governs_value _) fun endLine => ?_
  refine .required (Schema.governs_value _) fun mask => ?_
  refine .orDefault (Schema.governs_value _) (by decide) fun entries => ?_
  refine .required (Schema.governs_value _) fun ipc => ?_
  refine .required (Schema.governs_value _) fun l2Hit => ?_
  refine .required (Schema.governs_value _) fun l3Hit => ?_
  refine .required (Schema.governs_value _) fun bytes => ?_
  refine .required LinePercent.governs_ofJson?.list fun usage => ?_
  refine .required LinePercent.governs_ofJson?.list fun full => ?_
  exact assembles_done _

/-- The record without its entry count. -/
def withoutEntries (r : RegionRecord) : RegionRecord := { r with entryCount := 0 }

/-- The entry count of a record is dropped. -/
inductive DropsEntries : Json → Json → Prop where
  | drop {before after : List (Json.Literal × Json)} {count : Json} :
      DropsEntries (.object (before ++ (.text "entry_count", count) :: after)) (.object (before ++ after))

/-- A record without its entry count is read as one whose count is zero. -/
theorem ofJson?_of_dropsEntries {v w : Json} {r : RegionRecord} (read : ofJson? v = some r)
    (dropped : DropsEntries v w) : ofJson? w = some r.withoutEntries := by
  cases dropped with
  | drop =>
    obtain ⟨fields, told, reads⟩ := ofJson?_eq_some_iff.mp read
    obtain ⟨fields', told', same, absent⟩ := Json.fields?_of_dropped (by decide) told
    refine ofJson?_eq_some_iff.mpr ⟨fields', told', ?_⟩
    exact {
      id := Json.required?_of_same (same _ (by decide) (by decide)) reads.id
      kind := Json.required?_of_same (same _ (by decide) (by decide)) reads.kind
      startLine := Json.required?_of_same (same _ (by decide) (by decide)) reads.startLine
      endLine := Json.required?_of_same (same _ (by decide) (by decide)) reads.endLine
      initialMask := Json.required?_of_same (same _ (by decide) (by decide)) reads.initialMask
      entryCount := by rw [Json.orDefault?, absent, withoutEntries]
      ipc := Json.required?_of_same (same _ (by decide) (by decide)) reads.ipc
      l2Hit := Json.required?_of_same (same _ (by decide) (by decide)) reads.l2Hit
      l3Hit := Json.required?_of_same (same _ (by decide) (by decide)) reads.l3Hit
      bytesRead := Json.required?_of_same (same _ (by decide) (by decide)) reads.bytesRead
      laneUsage := Json.required?_of_same (same _ (by decide) (by decide)) reads.laneUsage
      fullMask := Json.required?_of_same (same _ (by decide) (by decide)) reads.fullMask }

end RegionRecord

namespace Report

/-- What is looked at of a report. -/
def schema : Schema :=
  .record ["file", "line", "total_num_lanes", "task", "regions"] [] fun name =>
    if name = "regions" then .list RegionRecord.schema else .value

theorem governs_ofJson? : schema.Governs ofJson? := by
  unfold ofJson?
  refine Assembles.governs ?_
  refine .required (Schema.governs_value _) fun file => ?_
  refine .required (Schema.governs_value _) fun line => ?_
  refine .required (Schema.governs_value _) fun lanes => ?_
  refine .required (Schema.governs_value _) fun task => ?_
  refine .required RegionRecord.governs_ofJson?.list fun regions => ?_
  exact assembles_done _

/-- The entry count of the region at a place of the list is dropped. -/
inductive DropsEntries : Nat → Json → Json → Prop where
  | region {before after : List (Json.Literal × Json)} {front back : List Json} {v w : Json}
      (dropped : RegionRecord.DropsEntries v w) :
      DropsEntries front.length
        (.object (before ++ (.text "regions", .array (front ++ v :: back)) :: after))
        (.object (before ++ (.text "regions", .array (front ++ w :: back)) :: after))

/-- The report without the entry counts of the regions at some places. -/
def withoutEntries (r : Report) (places : List Nat) : Report :=
  { r with regions := r.regions.mapIdx fun i region =>
      if i ∈ places then region.withoutEntries else region }

theorem withoutEntries_nil (r : Report) : r.withoutEntries [] = r := by
  have regions : (r.withoutEntries []).regions = r.regions := by
    apply List.ext_getElem?
    intro j
    simp [withoutEntries, List.getElem?_mapIdx]
  exact congrArg (fun regions => { r with regions := regions }) regions

theorem withoutEntries_cons (r : Report) (i : Nat) (places : List Nat) :
    r.withoutEntries (i :: places) =
      { r with regions := (r.withoutEntries places).regions.modify i RegionRecord.withoutEntries } := by
  have regions : (r.withoutEntries (i :: places)).regions =
      (r.withoutEntries places).regions.modify i RegionRecord.withoutEntries := by
    apply List.ext_getElem?
    intro j
    simp only [withoutEntries, List.getElem?_modify, List.getElem?_mapIdx]
    cases r.regions[j]? with
    | none => rfl
    | some region =>
      by_cases same : i = j
      · subst same
        by_cases member : i ∈ places <;> simp [member, RegionRecord.withoutEntries]
      · simp [same, Ne.symm same]
  exact congrArg (fun regions => { r with regions := regions }) regions

theorem ofJson?_of_dropsEntries {i : Nat} {v w : Json} {r : Report} (read : ofJson? v = some r)
    (dropped : DropsEntries i v w) :
    ofJson? w = some { r with regions := r.regions.modify i RegionRecord.withoutEntries } := by
  cases dropped with
  | @region before after front back v w dropped =>
    obtain ⟨fields, told, reads⟩ := ofJson?_eq_some_iff.mp read
    obtain ⟨fields', told', same, here, here'⟩ :=
      Json.fields?_of_changed (by decide) told (.array (front ++ w :: back))
    have changed : Json.required? fields' "regions" (Json.list? RegionRecord.ofJson?) =
        some (r.regions.modify front.length RegionRecord.withoutEntries) := by
      have regions := reads.regions
      rw [Json.required?, here] at regions
      rw [Json.required?, here']
      refine Json.list?_of_changed (fun x first => ?_) regions
      exact RegionRecord.ofJson?_of_dropsEntries first dropped
    refine ofJson?_eq_some_iff.mpr ⟨fields', told', ?_⟩
    exact {
      file := Json.required?_of_same (same _ (by decide) (by decide)) reads.file
      line := Json.required?_of_same (same _ (by decide) (by decide)) reads.line
      totalLanes := Json.required?_of_same (same _ (by decide) (by decide)) reads.totalLanes
      task := Json.required?_of_same (same _ (by decide) (by decide)) reads.task
      regions := changed }

/-- The values that come from what a report is written as by neutral changes and by dropping the entry
counts of the regions at some places. -/
inductive Variant (r : Report) : List Nat → Json → Prop where
  | written : Variant r [] r.toJson
  | neutral {places : List Nat} {v w : Json} (before : Variant r places v) (change : schema.Neutral v w) :
      Variant r places w
  | dropped {places : List Nat} {i : Nat} {v w : Json} (before : Variant r places v)
      (drops : DropsEntries i v w) : Variant r (i :: places) w

theorem Variant.ofJson? {r : Report} (finite : r.isFinite) {places : List Nat} {v : Json}
    (variant : r.Variant places v) : ofJson? v = some (r.withoutEntries places) := by
  induction variant with
  | written =>
    rw [ofJson?_toJson, withoutEntries_nil, Option.guard, if_pos finite]
  | neutral _ change ih => rw [governs_ofJson?.neutral change, ih]
  | dropped _ drops ih =>
    rw [ofJson?_of_dropsEntries ih drops, withoutEntries_cons]
    rfl

/-- The values that come from a variant of a report by dropping another member than an entry count or
repeating a known one, and by neutral changes after that. -/
inductive Spoiled (r : Report) : Json → Prop where
  | spoils {places : List Nat} {v w : Json} (variant : Variant r places v)
      (change : schema.Spoils v w) : Spoiled r w
  | neutral {v w : Json} (before : Spoiled r v) (change : schema.Neutral v w) : Spoiled r w

theorem Spoiled.ofJson? {r : Report} (finite : r.isFinite) {v : Json} (spoiled : r.Spoiled v) :
    ofJson? v = none := by
  induction spoiled with
  | spoils variant change =>
    apply governs_ofJson?.broken
    apply change.broken
    intro broken
    have read := variant.ofJson? finite
    rw [governs_ofJson?.broken broken] at read
    cases read
  | neutral _ change ih => rw [governs_ofJson?.neutral change, ih]

theorem ofText_of_spells {v : Json} {s : String} (spelled : v.Spells s) (unread : ofJson? v = none) :
    ofText s = .error (.serialization .wrongShape) := by
  simp only [ofText, Json.parse?_of_spells spelled, unread]

/-- **Every text of a variant of a report is read as that report, but for the entry counts that were
dropped, and every text that lacks another member or repeats one is refused.** -/
theorem neutral_changes_go_unnoticed (r : Report) (finite : r.isFinite) :
    r.toJson.Spells r.text ∧
    (∀ v s, r.Variant [] v → v.Spells s → ofText s = .ok r) ∧
    (∀ places v s, r.Variant places v → v.Spells s → ofText s = .ok (r.withoutEntries places)) ∧
    (∀ w s, r.Spoiled w → w.Spells s → ∃ e, ofText s = .error e ∧ e.code = "SERIALIZATION") ∧
    ∀ w s, schema.Broken w → w.Spells s → ∃ e, ofText s = .error e ∧ e.code = "SERIALIZATION" := by
  have variants : ∀ places v s, r.Variant places v → v.Spells s →
      ofText s = .ok (r.withoutEntries places) := by
    intro places v s variant spelled
    exact ofText_eq (Json.parse?_of_spells spelled) (variant.ofJson? finite)
  refine ⟨Json.spells_pretty r.toJson, ?same, variants, ?spoiled, ?broken⟩
  case same =>
    intro v s variant spelled
    rw [variants [] v s variant spelled, withoutEntries_nil]
  case spoiled =>
    intro w s spoiled spelled
    exact ⟨_, ofText_of_spells spelled (spoiled.ofJson? finite), rfl⟩
  case broken =>
    intro w s broken spelled
    exact ⟨_, ofText_of_spells spelled (governs_ofJson?.broken broken), rfl⟩

/-- A report of a loop that was entered three times. -/
def loopEntered : Report where
  file := "kernel"
  line := 1
  totalLanes := 8
  task := 7
  regions := [⟨0, .loop, 3, 6, 255, 3, .zero, .zero, .zero, .zero, [⟨4, .zero⟩], []⟩]

/-- The record of the loop without its entry count, and with a remark on its only share. -/
def loopRemarked : Json :=
  .ofMembers [("region_id", .ofNat 0), ("region_type", .ofText "loop"), ("start_line", .ofInt 3),
    ("end_line", .ofInt 6), ("initial_mask", .ofNat 255), ("ipc", .ofBinary64 .zero),
    ("l2_hit", .ofBinary64 .zero), ("l3_hit", .ofBinary64 .zero), ("bytes_read", .ofBinary64 .zero),
    ("lane_usage", .array [.ofMembers [("line", .ofInt 4), ("remark", .string .unpaired),
      ("percent", .ofBinary64 .zero)]]),
    ("full_mask_percentage", .array [])]

/-- The report with its members in reverse, and with one that no field has. -/
def loopRevised : Json :=
  .ofMembers [("regions", .array [loopRemarked]), ("task", .ofInt 7),
    ("origin", .array [.ofMembers [("task", .null)], .array []]), ("total_num_lanes", .ofNat 8),
    ("line", .ofInt 1), ("file", .ofText "kernel")]

/-- The revised report without its task. -/
def loopTaskless : Json :=
  .ofMembers [("regions", .array [loopRemarked]),
    ("origin", .array [.ofMembers [("task", .null)], .array []]), ("total_num_lanes", .ofNat 8),
    ("line", .ofInt 1), ("file", .ofText "kernel")]

theorem variant_loopRevised : loopEntered.Variant [0] loopRevised := by
  have share : LinePercent.schema.Neutral
      (.ofMembers [("line", .ofInt 4), ("percent", .ofBinary64 .zero)])
      (.ofMembers [("line", .ofInt 4), ("remark", .string .unpaired), ("percent", .ofBinary64 .zero)]) :=
    @Schema.Neutral.insert _ _ _ [_] [_] "remark" _ (by decide)
  have dropped := (Variant.written (r := loopEntered)).dropped
    (@DropsEntries.region [_, _, _, _] [] [] [] _ _ (@RegionRecord.DropsEntries.drop [_, _, _, _, _] _ _))
  have remarked := dropped.neutral
    (@Schema.Neutral.member _ _ _ [_, _, _, _] [] "regions" _ (.array [loopRemarked])
      (@Schema.Neutral.element _ [] [] _ _
        (@Schema.Neutral.member _ _ _ [_, _, _, _, _, _, _, _, _] [_] "lane_usage" _ _
          (@Schema.Neutral.element _ [] [] _ _ share))))
  have reversed := remarked.neutral (.permute (List.reverse_perm _).symm)
  exact reversed.neutral (@Schema.Neutral.insert _ _ _ [_, _] [_, _, _] "origin" _ (by decide))

theorem spoiled_loopTaskless : loopEntered.Spoiled loopTaskless :=
  .spoils variant_loopRevised (@Schema.Spoils.drop _ _ _ [_] _ "task" _ (by decide) (by decide))

theorem entry_count_dropped_and_members_changed :
    loopEntered.isFinite ∧
      ofText ("\n\t" ++ loopRevised.compact ++ "  \n") = .ok (loopEntered.withoutEntries [0]) ∧
      (loopEntered.withoutEntries [0]).regions.map (·.entryCount) = [0] ∧
      ∃ e, ofText loopTaskless.pretty = .error e ∧ e.code = "SERIALIZATION" := by
  have finite : loopEntered.isFinite := by decide +kernel
  obtain ⟨-, -, variants, spoiled, -⟩ := neutral_changes_go_unnoticed loopEntered finite
  refine ⟨finite, ?_, rfl, ?_⟩
  · apply variants [0] loopRevised _ variant_loopRevised
    exact (Json.spells_compact _).padded (by simp [Json.Blank, Json.Token.isSpace])
      (by simp [Json.Blank, Json.Token.isSpace])
  · exact spoiled loopTaskless _ spoiled_loopTaskless (Json.spells_pretty _)

end Report

end SimdProfile

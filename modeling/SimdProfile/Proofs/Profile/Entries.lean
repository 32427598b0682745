import SimdProfile.Proofs.Profile.WellFormed

/-!
# Open entries

A region counts its entries as they begin, and an entry stands on the stack until it ends. So every call
changes the two numbers alike, but for an end, which takes a frame and leaves the count. What a region
counts beyond its open frames is therefore the number of its ends: `entriesOf_run` and `framesOf_leave`.
-/

namespace SimdProfile

namespace ThreadProfile

variable {p q : ThreadProfile}

/-- The number of entries counted for an id. -/
def entriesOf (p : ThreadProfile) (id : RegionId) : Nat :=
  (p.regions[id]?.map (·.entries)).getD 0

/-- The number of open frames of the region with an id. -/
def framesOf (p : ThreadProfile) (id : RegionId) : Nat :=
  p.stack.countP fun frame => p.frameId? frame == some id

theorem WellFormed.frameId?_recorded (h : p.WellFormed) {slot : Nat}
    (below : slot < p.regions.length) (base : Option Snapshot) :
    p.frameId? (.recorded slot base) = some slot := by
  have found := List.getElem?_eq_getElem below
  rw [ThreadProfile.frameId?_recorded, idAt?, found, Option.map_some, h.id_eq slot _ found]

/-- A frame keeps its id while calls go on. -/
theorem WellFormed.frameId?_of_later (h : p.WellFormed) (later : p.identities <+: q.identities)
    {frame : Frame} (member : frame ∈ p.stack) : q.frameId? frame = p.frameId? frame := by
  cases frame with
  | suppressed kind => rfl
  | recorded slot base =>
    rw [frameId?, frameIdentity?_of_later later (h.slot_lt slot base member), frameId?]

theorem WellFormed.countP_frameId? (h : p.WellFormed) (later : p.identities <+: q.identities)
    {frames : List Frame} (old : ∀ frame ∈ frames, frame ∈ p.stack) (id : RegionId) :
    frames.countP (fun frame => q.frameId? frame == some id) =
      frames.countP fun frame => p.frameId? frame == some id := by
  apply List.countP_congr
  intro frame member
  rw [h.frameId?_of_later later (old frame member)]

theorem framesOf_of_cons {frame : Frame} {rest : List Frame} (hs : p.stack = frame :: rest)
    (id : RegionId) :
    p.framesOf id = rest.countP (fun frame => p.frameId? frame == some id) +
      if p.frameId? frame = some id then 1 else 0 := by
  simp only [framesOf, hs, List.countP_cons, beq_iff_eq]

/-- A call that only begins what it puts on the stack. -/
theorem WellFormed.framesOf_push (h : p.WellFormed) (later : p.identities <+: q.identities)
    {frame : Frame} (hs : q.stack = frame :: p.stack) (id : RegionId) :
    q.framesOf id = p.framesOf id + if q.frameId? frame = some id then 1 else 0 := by
  rw [framesOf_of_cons hs, h.countP_frameId? later (fun _ member => member), framesOf]

theorem WellFormed.framesOf_same (h : p.WellFormed) (later : p.identities <+: q.identities)
    (hs : q.stack = p.stack) (id : RegionId) : q.framesOf id = p.framesOf id := by
  rw [framesOf, hs, h.countP_frameId? later (fun _ member => member), framesOf]

theorem entriesOf_amendRegion (p : ThreadProfile) (slot : Nat) {f : Region → Region}
    (same : ∀ r, (f r).entries = r.entries) (id : RegionId) :
    (p.amendRegion slot f).entriesOf id = p.entriesOf id := by
  simp only [entriesOf, amendRegion, List.getElem?_modify]
  by_cases here : slot = id
  · simp [here, same, Function.comp_def]
  · simp [here]

/-- A recorded entry counts once more for the id of its frame. -/
theorem entriesOf_enter_of_records {kind : RegionKind} (hr : p.records kind = true)
    (h : p.WellFormed) (startLine endLine : Int32) (mask : UInt64) (snapshot : Option Snapshot) :
    let after := (p.enter kind startLine endLine mask snapshot).1
    ∃ slot base, slot < after.regions.length ∧ after.stack = .recorded slot base :: p.stack ∧
      ∀ id, after.entriesOf id = p.entriesOf id + if slot = id then 1 else 0 := by
  cases hs : p.slot? ⟨startLine, kind⟩ with
  | some slot =>
    rw [enter_of_known hr hs]
    obtain ⟨r, found, -⟩ := (h.slot_iff _ slot).mp hs
    refine ⟨slot, p.baseline snapshot, ?_, rfl, fun id => ?_⟩
    · rw [amendRegion, List.length_modify]
      exact (List.getElem?_eq_some_iff.mp found).1
    · simp only [entriesOf, amendRegion, List.getElem?_modify]
      by_cases here : slot = id
      · subst here
        simp [found, Region.countEntry, Region.reach]
      · simp [here]
  | none =>
    rw [enter_of_new hr hs]
    refine ⟨p.regions.length, p.baseline snapshot, by simp, rfl, fun id => ?_⟩
    simp only [entriesOf]
    by_cases here : p.regions.length = id
    · subst here
      simp [Region.create, Region.countEntry]
    · rw [if_neg here, List.getElem?_append]
      split
      · rfl
      · next beyond =>
        rw [List.getElem?_eq_none (Nat.le_of_not_lt beyond), List.getElem?_eq_none]
        · rfl
        · rw [List.length_singleton]
          omega

/-- An entry counts once in its region and once on the stack. -/
theorem WellFormed.entriesOf_enter (h : p.WellFormed) (kind : RegionKind)
    (startLine endLine : Int32) (mask : UInt64) (snapshot : Option Snapshot) (id : RegionId) :
    let after := (p.enter kind startLine endLine mask snapshot).1
    after.entriesOf id + p.framesOf id = p.entriesOf id + after.framesOf id := by
  intro after
  have later : p.identities <+: after.identities :=
    p.identities_enter kind startLine endLine mask snapshot
  cases hr : p.records kind with
  | false =>
    have suppressed : after = p.suppress kind :=
      congrArg Prod.fst (enter_of_not_records hr startLine endLine mask snapshot)
    have frames := h.framesOf_push (q := p.suppress kind) List.prefix_rfl rfl id
    rw [suppressed, frames]
    rfl
  | true =>
    obtain ⟨slot, base, below, stack, entries⟩ :=
      entriesOf_enter_of_records hr h startLine endLine mask snapshot
    have named : after.frameId? (.recorded slot base) = some slot :=
      (h.enter kind startLine endLine mask snapshot).frameId?_recorded below base
    rw [entries id, h.framesOf_push later stack id, named]
    simp only [Option.some.injEq]
    omega

/-- Every call but an end moves both counts alike. -/
theorem WellFormed.entriesOf_act (h : p.WellFormed) {a : Action} (stays : a.isLeave = false)
    (id : RegionId) :
    (p.act a).entriesOf id + p.framesOf id = p.entriesOf id + (p.act a).framesOf id := by
  have later := p.identities_act a
  cases a with
  | enter kind startLine endLine mask snapshot =>
    exact h.entriesOf_enter kind startLine endLine mask snapshot id
  | suppress kind =>
    rw [h.framesOf_push later rfl]
    rfl
  | leave => cases stays
  | observe line mask =>
    rw [h.framesOf_same later (p.stack_act_observe line mask), act_observe]
    split
    · rw [entriesOf_amendRegion _ _ fun _ => by rfl]
    · rfl
  | declareTask task =>
    rw [h.framesOf_same later rfl]
    rfl

/-- Calls without an end move both counts alike. -/
theorem WellFormed.entriesOf_run (h : p.WellFormed) {as : List Action}
    (stays : as.all (! ·.isLeave)) (id : RegionId) :
    (p.run as).entriesOf id + p.framesOf id = p.entriesOf id + (p.run as).framesOf id := by
  induction as generalizing p with
  | nil => rfl
  | cons a as ih =>
    rw [List.all_cons, Bool.and_eq_true, Bool.not_eq_true'] at stays
    have first := h.entriesOf_act stays.1 id
    have rest := ih (h.act a) stays.2
    rw [run_cons]
    omega

/-- An end takes the innermost frame and leaves the counts of all regions. -/
theorem WellFormed.entriesOf_leave (h : p.WellFormed) {frame : Frame} {rest : List Frame}
    (hs : p.stack = frame :: rest) (measure : Snapshot → Snapshot → Sample Float)
    (exit : Option Snapshot) (line : Int32) (id : RegionId) :
    let after := p.act (.leave measure exit line)
    after.entriesOf id = p.entriesOf id ∧
      p.framesOf id = after.framesOf id + if p.frameId? frame = some id then 1 else 0 := by
  intro after
  constructor
  · have same : after = p.act (.leave measure exit line) := rfl
    rw [same, act_leave, hs]
    cases frame with
    | suppressed kind => rfl
    | recorded slot base => exact entriesOf_amendRegion p slot (fun _ => by rfl) id
  · have later : p.identities <+: after.identities := p.identities_act _
    have left : after.stack = rest := p.stack_act_leave hs measure exit line
    have old : ∀ f ∈ rest, f ∈ p.stack := fun f member => hs ▸ .tail _ member
    rw [framesOf_of_cons hs, framesOf, left, h.countP_frameId? later old]

end ThreadProfile

end SimdProfile

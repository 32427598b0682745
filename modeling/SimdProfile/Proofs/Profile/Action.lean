import SimdProfile.ThreadProfile

/-!
# Runs of a profile

The calls on the profile of one thread as values, and what a row of them leaves behind. Each call is
opened here once: `enter` makes a suppressed frame, goes on with a known region or appends a new one,
and `leave` and `observe` go by the innermost frame. What a call can do to the stack and to the list of
regions is read off these equations, and no later proof looks inside the calls.

The fixed part of a region, its id, key and initial mask, is its identity. A call appends at most one
identity and changes none: `identities_act`.
-/

namespace SimdProfile

/-- A call on the profile of a thread. A `leave` carries the metrics its sample is derived by. -/
inductive Action where
  | enter (kind : RegionKind) (startLine endLine : Int32) (mask : UInt64) (snapshot : Option Snapshot)
  | suppress (kind : RegionKind)
  | leave (measure : Snapshot → Snapshot → Sample Float) (exit : Option Snapshot) (line : Int32)
  | observe (line : Int32) (mask : UInt64)
  | declareTask (task : Int32)

/-- Whether a call enters a region. -/
def Action.isEnter : Action → Bool
  | .enter .. => true
  | _ => false

/-- Whether a call leaves a region. -/
def Action.isLeave : Action → Bool
  | .leave .. => true
  | _ => false

/-- What stays of a region from its first entry on. -/
structure Region.Identity where
  id : RegionId
  key : RegionKey
  initialMask : UInt64
  deriving DecidableEq, Repr

/-- The identity of a region. -/
def Region.identity (r : Region) : Identity := ⟨r.id, r.key, r.initialMask⟩

namespace ThreadProfile

/-- The profile after a call. A call that fails leaves it as it was. -/
def act (p : ThreadProfile) : Action → ThreadProfile
  | .enter kind startLine endLine mask snapshot => (p.enter kind startLine endLine mask snapshot).1
  | .suppress kind => p.suppress kind
  | .leave measure exit line =>
    match p.leave measure exit line with
    | .ok (after, _) => after
    | .error _ => p
  | .observe line mask =>
    match p.observe line mask with
    | .ok (after, _) => after
    | .error _ => p
  | .declareTask task => p.declareTask task

/-- The profile after a row of calls. -/
def run (p : ThreadProfile) (actions : List Action) : ThreadProfile := actions.foldl act p

@[simp] theorem run_cons (p : ThreadProfile) (a : Action) (as : List Action) :
    p.run (a :: as) = (p.act a).run as := rfl

theorem run_append (p : ThreadProfile) (as bs : List Action) :
    p.run (as ++ bs) = (p.run as).run bs := List.foldl_append

/-- A property that every call keeps is kept by every run. -/
theorem run_induction {motive : ThreadProfile → Prop} {p : ThreadProfile}
    (step : ∀ q a, motive q → motive (q.act a)) (start : motive p) (as : List Action) :
    motive (p.run as) := by
  induction as generalizing p with
  | nil => exact start
  | cons a as ih => exact ih (step p a start)

/-- The identities of all regions, by place. -/
def identities (p : ThreadProfile) : List Region.Identity := p.regions.map Region.identity

/-- The identity of the region of a frame; a suppressed frame has none. -/
def frameIdentity? (p : ThreadProfile) (f : Frame) : Option Region.Identity :=
  (p.regionOf? f).map Region.identity

/-- The id of the region of a frame. -/
def frameId? (p : ThreadProfile) (f : Frame) : Option RegionId := (p.frameIdentity? f).map (·.id)

/-- The key of the region of a frame. -/
def frameKey? (p : ThreadProfile) (f : Frame) : Option RegionKey := (p.frameIdentity? f).map (·.key)

theorem frameId?_recorded (p : ThreadProfile) (slot : Nat) (base : Option Snapshot) :
    p.frameId? (.recorded slot base) = p.idAt? slot :=
  Option.map_map ..

theorem frameKey?_recorded (p : ThreadProfile) (slot : Nat) (base : Option Snapshot) :
    p.frameKey? (.recorded slot base) = p.regions[slot]?.map (·.key) :=
  Option.map_map ..

/-! ### The shape of each call -/

/-- The snapshot an entry keeps of the one it is given. -/
def baseline (p : ThreadProfile) (snapshot : Option Snapshot) : Option Snapshot :=
  if p.readsCounters then snapshot else none

theorem enter_of_not_records {p : ThreadProfile} {kind : RegionKind} (h : p.records kind = false)
    (startLine endLine : Int32) (mask : UInt64) (snapshot : Option Snapshot) :
    p.enter kind startLine endLine mask snapshot = (p.suppress kind, none) := by
  simp [enter, h]

/-- An entry into a region that is known by its key. -/
theorem enter_of_known {p : ThreadProfile} {kind : RegionKind} {startLine : Int32} {slot : Nat}
    (h : p.records kind = true) (hs : p.slot? ⟨startLine, kind⟩ = some slot) (endLine : Int32)
    (mask : UInt64) (snapshot : Option Snapshot) :
    let after := { p.amendRegion slot fun r => (r.reach endLine).countEntry with
      stack := .recorded slot (p.baseline snapshot) :: p.stack }
    p.enter kind startLine endLine mask snapshot = (after, after.idAt? slot) := by
  have twice : ((p.amendRegion slot (·.reach endLine)).amendRegion slot (·.countEntry)) =
      p.amendRegion slot fun r => (r.reach endLine).countEntry := by
    simp only [amendRegion, List.modify_modify_eq]
    rfl
  simp only [enter, h, Bool.not_true, Bool.false_eq_true, if_false, intern, hs, twice]
  rfl

/-- An entry into a region that is new: it goes to the end of the list. -/
theorem enter_of_new {p : ThreadProfile} {kind : RegionKind} {startLine : Int32}
    (h : p.records kind = true) (hs : p.slot? ⟨startLine, kind⟩ = none) (endLine : Int32)
    (mask : UInt64) (snapshot : Option Snapshot) :
    let created := (Region.create p.nextId ⟨startLine, kind⟩ endLine mask).countEntry
    let after := { p with
      regions := p.regions ++ [created]
      table := (⟨startLine, kind⟩, p.regions.length) :: p.table
      nextId := p.nextId + 1
      stack := .recorded p.regions.length (p.baseline snapshot) :: p.stack }
    p.enter kind startLine endLine mask snapshot = (after, some p.nextId) := by
  have last (r : Region) : (p.regions ++ [r]).modify p.regions.length (·.countEntry) =
      p.regions ++ [r.countEntry] := by
    rw [List.modify_eq_take_cons_drop (by simp)]
    simp
  simp only [enter, h, Bool.not_true, Bool.false_eq_true, if_false, intern, hs, amendRegion, last]
  simp [idAt?, Region.create, Region.countEntry]
  rfl

/-- An entry is not recorded, or goes into a known region, or into a new one. -/
theorem enter_cases (p : ThreadProfile) (kind : RegionKind) (startLine endLine : Int32)
    (mask : UInt64) (snapshot : Option Snapshot) :
    let after := (p.enter kind startLine endLine mask snapshot).1
    (p.records kind = false ∧ after = p.suppress kind) ∨
      (p.records kind = true ∧ ∃ slot, p.slot? ⟨startLine, kind⟩ = some slot ∧
        after = { p.amendRegion slot fun r => (r.reach endLine).countEntry with
          stack := .recorded slot (p.baseline snapshot) :: p.stack }) ∨
      (p.records kind = true ∧ p.slot? ⟨startLine, kind⟩ = none ∧
        after = { p with
          regions := p.regions ++
            [(Region.create p.nextId ⟨startLine, kind⟩ endLine mask).countEntry]
          table := (⟨startLine, kind⟩, p.regions.length) :: p.table
          nextId := p.nextId + 1
          stack := .recorded p.regions.length (p.baseline snapshot) :: p.stack }) := by
  cases hr : p.records kind with
  | false => exact .inl ⟨rfl, congrArg (·.1) (enter_of_not_records hr ..)⟩
  | true =>
    cases hs : p.slot? ⟨startLine, kind⟩ with
    | some slot => exact .inr (.inl ⟨rfl, slot, rfl, congrArg (·.1) (enter_of_known hr hs ..)⟩)
    | none => exact .inr (.inr ⟨rfl, rfl, congrArg (·.1) (enter_of_new hr hs ..)⟩)

/-- The counter sample of an entry with snapshots at its ends. -/
def sample (measure : Snapshot → Snapshot → Sample Float) (baseline exit : Option Snapshot) :
    Option (Sample Float) :=
  baseline.bind fun before => exit.map fun after => measure before after

/-- What the end of an entry does: a suppressed frame goes without a trace, and a recorded one closes
its region. -/
theorem act_leave (p : ThreadProfile) (measure : Snapshot → Snapshot → Sample Float)
    (exit : Option Snapshot) (line : Int32) :
    p.act (.leave measure exit line) =
      match p.stack with
      | [] => p
      | .suppressed _ :: rest => { p with stack := rest }
      | .recorded slot base :: rest =>
        { p.amendRegion slot (·.close (sample measure base exit) line) with stack := rest } := by
  cases hs : p.stack with
  | nil => simp only [act, leave, hs]
  | cons frame rest =>
    cases frame with
    | suppressed kind => simp only [act, leave, hs]
    | recorded slot base =>
      simp only [act, leave, hs]
      rfl

theorem stack_act_leave (p : ThreadProfile) {frame : Frame} {rest : List Frame}
    (h : p.stack = frame :: rest) (measure : Snapshot → Snapshot → Sample Float)
    (exit : Option Snapshot) (line : Int32) : (p.act (.leave measure exit line)).stack = rest := by
  rw [act_leave]
  cases frame <;> simp only [h]

/-- What an observation does: it goes to the region of the innermost frame. -/
theorem act_observe (p : ThreadProfile) (line : Int32) (mask : UInt64) :
    p.act (.observe line mask) =
      match p.stack with
      | .recorded slot _ :: _ =>
        p.amendRegion slot (·.observe line mask p.declaration.laneWidth.toNat)
      | _ => p := by
  cases hs : p.stack with
  | nil => simp only [act, observe, hs]
  | cons frame rest => cases frame <;> simp only [act, observe, hs]

theorem stack_act_observe (p : ThreadProfile) (line : Int32) (mask : UInt64) :
    (p.act (.observe line mask)).stack = p.stack := by
  rw [act_observe]
  split <;> rfl

/-- No call changes what the thread declared. -/
theorem declaration_act (p : ThreadProfile) (a : Action) : (p.act a).declaration = p.declaration := by
  cases a with
  | enter kind startLine endLine mask snapshot =>
    cases hr : p.records kind with
    | false =>
      rw [act, enter_of_not_records hr]
      rfl
    | true =>
      cases hs : p.slot? ⟨startLine, kind⟩ with
      | some slot =>
        rw [act, enter_of_known hr hs]
        rfl
      | none => rw [act, enter_of_new hr hs]
  | suppress kind => rfl
  | leave measure exit line =>
    rw [act_leave]
    split <;> rfl
  | observe line mask =>
    rw [act_observe]
    split <;> rfl
  | declareTask task => rfl

/-! ### The answers -/

theorem idAt?_amendRegion (p : ThreadProfile) (slot place : Nat) {f : Region → Region}
    (h : ∀ r, (f r).id = r.id) : (p.amendRegion slot f).idAt? place = p.idAt? place := by
  simp only [idAt?, amendRegion, List.getElem?_modify]
  by_cases same : slot = place
  · simp [same, h, Function.comp_def]
  · simp [same]

/-- The end of an entry is refused if nothing is open, and else answers the region that was entered. -/
theorem leave_eq (p : ThreadProfile) (measure : Snapshot → Snapshot → Sample Float)
    (exit : Option Snapshot) (line : Int32) :
    p.leave measure exit line =
      match p.stack with
      | [] => .error (.unbalancedEnd line)
      | frame :: _ => .ok (p.act (.leave measure exit line), p.frameId? frame) := by
  cases hs : p.stack with
  | nil => simp only [leave, hs]
  | cons frame rest =>
    cases frame with
    | suppressed kind =>
      simp only [act, leave, hs]
      rfl
    | recorded slot base =>
      have kept := idAt?_amendRegion { p with stack := rest } slot slot
        (f := (·.close (sample measure base exit) line)) fun _ => rfl
      simp only [act, leave, hs]
      exact congrArg (fun id => Except.ok (_, id)) (kept.trans (p.frameId?_recorded slot base).symm)

/-- An entry answers the region of the frame it leaves on top. -/
theorem enter_answer (p : ThreadProfile) (kind : RegionKind) (startLine endLine : Int32)
    (mask : UInt64) (snapshot : Option Snapshot) :
    ∃ frame, (p.enter kind startLine endLine mask snapshot).1.stack = frame :: p.stack ∧
      (p.enter kind startLine endLine mask snapshot).2 =
        (p.enter kind startLine endLine mask snapshot).1.frameId? frame := by
  cases hr : p.records kind with
  | false =>
    rw [enter_of_not_records hr]
    exact ⟨_, rfl, rfl⟩
  | true =>
    cases hs : p.slot? ⟨startLine, kind⟩ with
    | some slot =>
      rw [enter_of_known hr hs]
      exact ⟨_, rfl, (frameId?_recorded ..).symm⟩
    | none =>
      rw [enter_of_new hr hs]
      refine ⟨_, rfl, ?_⟩
      rw [frameId?_recorded]
      simp [idAt?, Region.create, Region.countEntry]

end ThreadProfile

end SimdProfile

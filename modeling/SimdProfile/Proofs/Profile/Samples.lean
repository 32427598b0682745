import SimdProfile.Proofs.Profile.Entries
import SimdProfile.Proofs.Profile.Observations

/-!
# Samples

The averages of a region change when an entry of it ends, and then by the sample of the two snapshots of
this entry alone: `averagesOf_leave`. The snapshot of its beginning stands in the frame, put there by the
entry that pushed it: `WellFormed.stack_enter`. A profile that does not read the counters keeps none, so
its averages stay empty whatever snapshots it is handed.
-/

namespace SimdProfile

namespace ThreadProfile

variable {p : ThreadProfile}

/-- The averages of the region with an id. -/
def averagesOf (p : ThreadProfile) (id : RegionId) : Averages Float :=
  (p.regions[id]?.map (·.averages)).getD .empty

theorem averagesOf_amendRegion (p : ThreadProfile) (slot : Nat) {f : Region → Region}
    (same : ∀ r, (f r).averages = r.averages) (id : RegionId) :
    (p.amendRegion slot f).averagesOf id = p.averagesOf id := by
  simp only [averagesOf, amendRegion, List.getElem?_modify]
  by_cases here : slot = id
  · simp [here, same, Function.comp_def]
  · simp [here]

/-- No call but an end changes averages. -/
theorem averagesOf_act (p : ThreadProfile) {a : Action} (stays : a.isLeave = false) (id : RegionId) :
    (p.act a).averagesOf id = p.averagesOf id := by
  cases a with
  | enter kind startLine endLine mask snapshot =>
    rcases p.enter_cases kind startLine endLine mask snapshot with
      ⟨-, entered⟩ | ⟨-, slot, -, entered⟩ | ⟨-, -, entered⟩
    · rw [act, entered]
      rfl
    · rw [act, entered]
      exact p.averagesOf_amendRegion slot (fun _ => by rfl) id
    · rw [act, entered]
      simp only [averagesOf]
      rcases Nat.lt_trichotomy id p.regions.length with below | rfl | above
      · rw [List.getElem?_append_left below]
      · simp [Region.create, Region.countEntry]
      · rw [List.getElem?_eq_none (by simp; omega), List.getElem?_eq_none (Nat.le_of_lt above)]
  | suppress kind => rfl
  | leave => cases stays
  | observe line mask =>
    rw [act_observe]
    split
    · exact p.averagesOf_amendRegion _ (fun _ => by rfl) id
    · rfl
  | declareTask task => rfl

theorem averagesOf_run {as : List Action} (stays : as.all (! ·.isLeave)) (id : RegionId) :
    (p.run as).averagesOf id = p.averagesOf id := by
  induction as generalizing p with
  | nil => rfl
  | cons a as ih =>
    rw [List.all_cons, Bool.and_eq_true, Bool.not_eq_true'] at stays
    rw [run_cons, ih stays.2, p.averagesOf_act stays.1]

/-- The end of a recorded entry adds its sample to the averages of its region and to no others. -/
theorem WellFormed.averagesOf_leave (h : p.WellFormed) {slot : Nat} {base : Option Snapshot}
    {rest : List Frame} (hs : p.stack = .recorded slot base :: rest)
    (measure : Snapshot → Snapshot → Sample Float) (exit : Option Snapshot) (line : Int32)
    (id : RegionId) :
    (p.act (.leave measure exit line)).averagesOf id =
      if slot = id then (p.averagesOf id).addExit (sample measure base exit) else p.averagesOf id := by
  have below := h.slot_lt slot base (hs ▸ .head _)
  simp only [act_leave, hs, averagesOf, amendRegion, List.getElem?_modify]
  split
  · next here =>
    subst here
    simp [List.getElem?_eq_getElem below, Region.close]
  · simp

theorem averagesOf_leave_of_suppressed {kind : RegionKind} {rest : List Frame}
    (hs : p.stack = .suppressed kind :: rest) (measure : Snapshot → Snapshot → Sample Float)
    (exit : Option Snapshot) (line : Int32) (id : RegionId) :
    (p.act (.leave measure exit line)).averagesOf id = p.averagesOf id := by
  simp only [act_leave, hs]
  rfl

/-- An entry pushes one frame: a suppressed one, or that of a region with the snapshot it is given, if
the profile reads the counters. -/
theorem WellFormed.stack_enter (h : p.WellFormed) (kind : RegionKind) (startLine endLine : Int32)
    (mask : UInt64) (snapshot : Option Snapshot) :
    let after := (p.enter kind startLine endLine mask snapshot).1
    (p.records kind = false ∧ after.stack = .suppressed kind :: p.stack) ∨
      p.records kind = true ∧ ∃ slot, slot < after.regions.length ∧
        after.stack = .recorded slot (p.baseline snapshot) :: p.stack := by
  rcases p.enter_cases kind startLine endLine mask snapshot with
    ⟨hr, entered⟩ | ⟨hr, slot, hs, entered⟩ | ⟨hr, -, entered⟩
  · rw [entered]
    exact .inl ⟨hr, rfl⟩
  · obtain ⟨r, found, -⟩ := (h.slot_iff _ slot).mp hs
    rw [entered]
    refine .inr ⟨hr, slot, ?_, rfl⟩
    rw [amendRegion, List.length_modify]
    exact (List.getElem?_eq_some_iff.mp found).1
  · rw [entered]
    exact .inr ⟨hr, p.regions.length, by simp, rfl⟩

theorem declaration_run (p : ThreadProfile) (as : List Action) :
    (p.run as).declaration = p.declaration :=
  run_induction (motive := fun q => q.declaration = p.declaration)
    (fun q a same => (q.declaration_act a).trans same) rfl as

/-! ### Without counters -/

/-- A profile that does not read the counters has no snapshot and no sample. -/
structure Unsampled (p : ThreadProfile) : Prop where
  reads : p.readsCounters = false
  frames : ∀ slot base, Frame.recorded slot base ∈ p.stack → base = none
  regions : ∀ r ∈ p.regions, r.averages = .empty

theorem Unsampled.create (t : ThreadId) {d : Declaration} (reads : d.flags.readsCounters = false) :
    (ThreadProfile.create t d).Unsampled :=
  ⟨reads, nofun, nofun⟩

theorem Unsampled.enter (h : p.Unsampled) (kind : RegionKind) (startLine endLine : Int32)
    (mask : UInt64) (snapshot : Option Snapshot) :
    (p.enter kind startLine endLine mask snapshot).1.Unsampled := by
  have baseline : p.baseline snapshot = none := by
    rw [ThreadProfile.baseline, h.reads]
    rfl
  have frames (slot : Nat) : ∀ slot' base,
      Frame.recorded slot' base ∈ Frame.recorded slot (p.baseline snapshot) :: p.stack →
        base = none := by
    intro slot' base member
    rcases List.mem_cons.mp member with own | old
    · cases own
      exact baseline
    · exact h.frames slot' base old
  rcases p.enter_cases kind startLine endLine mask snapshot with
    ⟨-, entered⟩ | ⟨-, slot, -, entered⟩ | ⟨-, -, entered⟩
  · rw [entered]
    exact ⟨h.reads, by simpa [ThreadProfile.suppress] using h.frames, h.regions⟩
  · rw [entered]
    exact ⟨h.reads, frames slot, forall_amendRegion (fun _ empty => empty) h.regions⟩
  · rw [entered]
    refine ⟨h.reads, frames _, fun r member => ?_⟩
    rcases List.mem_append.mp member with old | new
    · exact h.regions r old
    · rw [List.mem_singleton.mp new]
      rfl

theorem Unsampled.act (h : p.Unsampled) (a : Action) : (p.act a).Unsampled := by
  cases a with
  | enter kind startLine endLine mask snapshot => exact h.enter kind startLine endLine mask snapshot
  | suppress kind =>
    exact ⟨h.reads, by simpa [ThreadProfile.act, ThreadProfile.suppress] using h.frames, h.regions⟩
  | leave measure exit line =>
    rw [act_leave]
    split
    · exact h
    · next kind rest hs =>
      exact ⟨h.reads, fun slot base member => h.frames slot base (hs ▸ .tail _ member), h.regions⟩
    · next slot base rest hs =>
      refine ⟨h.reads, fun slot base member => h.frames slot base (hs ▸ .tail _ member),
        forall_amendRegion (fun r empty => ?_) h.regions⟩
      rw [h.frames slot base (hs ▸ .head _)]
      exact empty
  | observe line mask =>
    rw [act_observe]
    split
    · exact ⟨h.reads, h.frames, forall_amendRegion (fun _ empty => empty) h.regions⟩
    · exact h
  | declareTask task => exact ⟨h.reads, h.frames, h.regions⟩

/-- Whatever snapshots it is handed, a profile that does not read the counters has empty averages. -/
theorem Unsampled.run (h : p.Unsampled) (as : List Action) : (p.run as).Unsampled :=
  run_induction (fun _ a h => h.act a) h as

end ThreadProfile

end SimdProfile

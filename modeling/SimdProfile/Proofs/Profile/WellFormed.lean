import SimdProfile.Proofs.Profile.Action

/-!
# Well-formed profiles

The list of regions, the table and the open frames refer to each other by place. A profile is well
formed if the table knows the place of every region and nothing else, ids are places, and no recorded
frame points past the list. A new profile is well formed and every call keeps it so; the identities of
the regions that are there never change, and new ones come behind them.
-/

namespace SimdProfile

namespace ThreadProfile

variable {p q : ThreadProfile}

/-! ### Identities -/

theorem getElem?_identities (p : ThreadProfile) (slot : Nat) :
    p.identities[slot]? = p.regions[slot]?.map Region.identity :=
  List.getElem?_map

theorem length_identities (p : ThreadProfile) : p.identities.length = p.regions.length :=
  List.length_map _

theorem identities_amendRegion (p : ThreadProfile) (slot : Nat) {f : Region → Region}
    (h : ∀ r, (f r).identity = r.identity) :
    (p.amendRegion slot f).identities = p.identities := by
  apply List.ext_getElem?
  intro i
  simp only [getElem?_identities, amendRegion, List.getElem?_modify]
  cases p.regions[i]? with
  | none => rfl
  | some r =>
    by_cases same : slot = i
    · simp [same, h]
    · simp [same]

/-- An entry appends at most one identity. -/
theorem identities_enter (p : ThreadProfile) (kind : RegionKind) (startLine endLine : Int32)
    (mask : UInt64) (snapshot : Option Snapshot) :
    p.identities <+: (p.enter kind startLine endLine mask snapshot).1.identities := by
  cases hr : p.records kind with
  | false =>
    rw [enter_of_not_records hr]
    exact List.prefix_rfl
  | true =>
    cases hs : p.slot? ⟨startLine, kind⟩ with
    | some slot =>
      rw [enter_of_known hr hs]
      have kept := p.identities_amendRegion slot (f := fun r => (r.reach endLine).countEntry)
        fun _ => rfl
      exact (congrArg (p.identities <+: ·) kept).mpr List.prefix_rfl
    | none =>
      rw [enter_of_new hr hs]
      exact ⟨_, List.map_append.symm⟩

/-- No call removes a region or changes its place, its id, its key or its initial mask. -/
theorem identities_act (p : ThreadProfile) (a : Action) : p.identities <+: (p.act a).identities := by
  cases a with
  | enter kind startLine endLine mask snapshot =>
    exact p.identities_enter kind startLine endLine mask snapshot
  | suppress kind => exact List.prefix_rfl
  | leave measure exit line =>
    rw [act_leave]
    split
    · exact List.prefix_rfl
    · exact List.prefix_rfl
    · next slot base rest _ =>
      have kept := p.identities_amendRegion slot
        (f := (·.close (sample measure base exit) line)) fun _ => rfl
      exact (congrArg (p.identities <+: ·) kept).mpr List.prefix_rfl
  | observe line mask =>
    rw [act_observe]
    split
    · next slot base rest _ =>
      have kept := p.identities_amendRegion slot
        (f := (·.observe line mask p.declaration.laneWidth.toNat)) fun _ => rfl
      exact (congrArg (p.identities <+: ·) kept).mpr List.prefix_rfl
    · exact List.prefix_rfl
  | declareTask task => exact List.prefix_rfl

/-- What no call changes, no run changes. -/
theorem identities_run (p : ThreadProfile) (as : List Action) :
    p.identities <+: (p.run as).identities :=
  run_induction (motive := fun q => p.identities <+: q.identities)
    (fun q a h => h.trans (q.identities_act a)) List.prefix_rfl as

/-- A frame stands for the same region as long as that region is at its place. -/
theorem frameIdentity?_of_later (h : p.identities <+: q.identities) {slot : Nat}
    (below : slot < p.regions.length) (base : Option Snapshot) :
    q.frameIdentity? (.recorded slot base) = p.frameIdentity? (.recorded slot base) := by
  obtain ⟨later, same⟩ := h
  have found : q.identities[slot]? = p.identities[slot]? := by
    rw [← same, List.getElem?_append_left (p.length_identities ▸ below)]
  rwa [getElem?_identities, getElem?_identities] at found

/-! ### The invariant -/

/-- The table, the list of regions and the frames agree. -/
structure WellFormed (p : ThreadProfile) : Prop where
  /-- The table has the key of each region, with its place, and no other key. -/
  slot_iff : ∀ key slot, p.slot? key = some slot ↔ ∃ r : Region, p.regions[slot]? = some r ∧ r.key = key
  /-- A region has its place as its id. -/
  id_eq : ∀ slot (r : Region), p.regions[slot]? = some r → r.id = slot
  nextId_eq : p.nextId = p.regions.length
  slot_lt : ∀ slot base, Frame.recorded slot base ∈ p.stack → slot < p.regions.length

/-- The region of an open frame is in the table. -/
theorem WellFormed.exists_key (h : p.WellFormed) {slot : Nat} {base : Option Snapshot}
    (member : Frame.recorded slot base ∈ p.stack) :
    ∃ key, p.slot? key = some slot ∧ p.frameKey? (.recorded slot base) = some key := by
  have found := List.getElem?_eq_getElem (h.slot_lt slot base member)
  refine ⟨_, (h.slot_iff _ slot).mpr ⟨_, found, rfl⟩, ?_⟩
  rw [frameKey?_recorded, found]
  rfl

/-- A key that is not in the table is the key of no region. -/
theorem WellFormed.key_ne (h : p.WellFormed) {key : RegionKey} (hs : p.slot? key = none) {r : Region}
    (member : r ∈ p.regions) : r.key ≠ key := by
  intro same
  obtain ⟨slot, found⟩ := List.mem_iff_getElem?.mp member
  have := (h.slot_iff key slot).mpr ⟨r, found, same⟩
  rw [hs] at this
  cases this

/-- Looking a region up by its key finds the one of the list. -/
theorem WellFormed.region?_eq (h : p.WellFormed) (key : RegionKey) :
    p.region? key = p.regions.find? (·.key == key) := by
  cases hs : p.slot? key with
  | none =>
    have absent : p.regions.find? (·.key == key) = none := by
      simpa [List.find?_eq_none] using fun r member => h.key_ne hs member
    rw [region?, hs, absent]
    rfl
  | some slot =>
    obtain ⟨r, found, named⟩ := (h.slot_iff key slot).mp hs
    rw [region?, hs, Option.bind_some, found]
    symm
    rw [List.find?_eq_some_iff_getElem]
    obtain ⟨below, here⟩ := List.getElem?_eq_some_iff.mp found
    refine ⟨by simpa using named, slot, below, here, ?_⟩
    intro j before
    have other : p.regions[j].key ≠ key := by
      intro same
      have there := (h.slot_iff key j).mpr ⟨_, List.getElem?_eq_getElem _, same⟩
      rw [hs] at there
      exact Nat.ne_of_gt before (Option.some.inj there)
    simpa using other

/-- The list of regions is in the order of ids, so a report lists it as it is. -/
theorem WellFormed.report_regions (h : p.WellFormed) :
    p.report.regions = p.regions.map (·.toRecord) := by
  have ordered : p.regions.Pairwise fun a b => decide (a.id ≤ b.id) = true := by
    rw [List.pairwise_iff_getElem]
    intro i j hi hj before
    rw [h.id_eq i _ (List.getElem?_eq_getElem hi), h.id_eq j _ (List.getElem?_eq_getElem hj)]
    exact decide_eq_true (Nat.le_of_lt before)
  rw [report, List.mergeSort_of_pairwise ordered]

/-- After a change of one region, a region is the changed one or has another key. -/
theorem WellFormed.mem_amendRegion (h : p.WellFormed) {key : RegionKey} {slot : Nat}
    (hs : p.slot? key = some slot) {f : Region → Region} {r : Region}
    (member : r ∈ (p.amendRegion slot f).regions) :
    (∃ s ∈ p.regions, s.key = key ∧ r = f s) ∨ (r ∈ p.regions ∧ r.key ≠ key) := by
  obtain ⟨i, found⟩ := List.mem_iff_getElem?.mp member
  rw [amendRegion, List.getElem?_modify] at found
  obtain ⟨s, old, rfl⟩ := Option.map_eq_some_iff.mp found
  by_cases same : slot = i
  · subst same
    obtain ⟨s', old', hk⟩ := (h.slot_iff key slot).mp hs
    rw [old] at old'
    cases old'
    exact .inl ⟨s, List.mem_of_getElem? old, hk, if_pos rfl⟩
  · rw [if_neg same]
    refine .inr ⟨List.mem_of_getElem? old, fun hk => same ?_⟩
    have := (h.slot_iff key i).mpr ⟨s, old, hk⟩
    rw [hs] at this
    exact Option.some.inj this

theorem wellFormed_create (owner : ThreadId) (d : Declaration) : (create owner d).WellFormed where
  slot_iff := by simp [create, slot?]
  id_eq := by simp [create]
  nextId_eq := rfl
  slot_lt := by simp [create]

/-- The invariant speaks of identities alone. -/
theorem WellFormed.congr (h : p.WellFormed) (identities : q.identities = p.identities)
    (table : q.table = p.table) (nextId : q.nextId = p.nextId)
    (frames : ∀ slot base, Frame.recorded slot base ∈ q.stack → slot < p.regions.length) :
    q.WellFormed := by
  have lengths : q.regions.length = p.regions.length := by
    rw [← length_identities, identities, length_identities]
  have lookup (slot : Nat) :
      q.regions[slot]?.map Region.identity = p.regions[slot]?.map Region.identity := by
    rw [← getElem?_identities, identities, getElem?_identities]
  refine ⟨?_, ?_, ?_, ?_⟩
  · intro key slot
    have same : q.slot? key = p.slot? key := by rw [slot?, table, slot?]
    rw [same, h.slot_iff]
    have := lookup slot
    constructor
    · rintro ⟨r, found, rfl⟩
      obtain ⟨r', found', same⟩ := Option.map_eq_some_iff.mp (this.trans (congrArg _ found))
      exact ⟨r', found', congrArg Region.Identity.key same⟩
    · rintro ⟨r, found, rfl⟩
      obtain ⟨r', found', same⟩ := Option.map_eq_some_iff.mp (this.symm.trans (congrArg _ found))
      exact ⟨r', found', congrArg Region.Identity.key same⟩
  · intro slot r found
    obtain ⟨r', found', same⟩ :=
      Option.map_eq_some_iff.mp ((lookup slot).symm.trans (congrArg _ found))
    rw [← h.id_eq slot r' found']
    exact (congrArg Region.Identity.id same).symm
  · rw [nextId, h.nextId_eq, lengths]
  · rw [lengths]
    exact frames

theorem WellFormed.suppress (h : p.WellFormed) (kind : RegionKind) : (p.suppress kind).WellFormed :=
  h.congr rfl rfl rfl (by simpa [ThreadProfile.suppress] using h.slot_lt)

private theorem getElem?_concat_eq_some_iff {α : Type} {l : List α} {a b : α} {i : Nat} :
    (l ++ [a])[i]? = some b ↔ l[i]? = some b ∨ i = l.length ∧ a = b := by
  grind

theorem WellFormed.enter (h : p.WellFormed) (kind : RegionKind) (startLine endLine : Int32)
    (mask : UInt64) (snapshot : Option Snapshot) :
    (p.enter kind startLine endLine mask snapshot).1.WellFormed := by
  cases hr : p.records kind with
  | false =>
    rw [enter_of_not_records hr]
    exact h.suppress kind
  | true =>
    cases hs : p.slot? ⟨startLine, kind⟩ with
    | some slot =>
      rw [enter_of_known hr hs]
      obtain ⟨r, found, -⟩ := (h.slot_iff _ _).mp hs
      have below : slot < p.regions.length := (List.getElem?_eq_some_iff.mp found).1
      refine h.congr (p.identities_amendRegion slot fun _ => rfl) rfl rfl ?_
      intro s base member
      rcases List.mem_cons.mp member with same | member
      · cases same
        exact below
      · exact h.slot_lt s base member
    | none =>
      rw [enter_of_new hr hs]
      refine ⟨?_, ?_, ?_, ?_⟩
      · intro key slot
        simp only [getElem?_concat_eq_some_iff, slot?, List.lookup_cons]
        have old := h.slot_iff key slot
        rw [slot?] at old
        by_cases same : key = ⟨startLine, kind⟩
        · subst same
          simp only [beq_self_eq_true, Option.some.injEq]
          constructor
          · rintro rfl
            exact ⟨_, .inr ⟨rfl, rfl⟩, rfl⟩
          · rintro ⟨r, found | ⟨last, -⟩, equal⟩
            · exact absurd equal (h.key_ne hs (List.mem_of_getElem? found))
            · exact last.symm
        · rw [beq_false_of_ne same]
          constructor
          · intro found
            obtain ⟨r, found, equal⟩ := old.mp found
            exact ⟨r, .inl found, equal⟩
          · rintro ⟨r, found | ⟨-, rfl⟩, equal⟩
            · exact old.mpr ⟨r, found, equal⟩
            · exact absurd equal.symm same
      · intro slot r found
        rcases getElem?_concat_eq_some_iff.mp found with found | ⟨rfl, rfl⟩
        · exact h.id_eq slot r found
        · exact h.nextId_eq
      · simp [h.nextId_eq]
      · intro slot base member
        rw [List.length_append]
        rcases List.mem_cons.mp member with same | member
        · cases same
          exact Nat.lt_succ_self _
        · exact Nat.lt_succ_of_lt (h.slot_lt slot base member)

theorem WellFormed.act (h : p.WellFormed) (a : Action) : (p.act a).WellFormed := by
  cases a with
  | enter kind startLine endLine mask snapshot => exact h.enter kind startLine endLine mask snapshot
  | suppress kind => exact h.suppress kind
  | leave measure exit line =>
    rw [act_leave]
    split
    · exact h
    · next kind rest hs =>
      exact h.congr rfl rfl rfl fun slot base member => h.slot_lt slot base (hs ▸ .tail _ member)
    · next slot base rest hs =>
      exact h.congr (p.identities_amendRegion slot fun _ => rfl) rfl rfl
        fun slot base member => h.slot_lt slot base (hs ▸ .tail _ member)
  | observe line mask =>
    rw [act_observe]
    split
    · exact h.congr (p.identities_amendRegion _ fun _ => rfl) rfl rfl h.slot_lt
    · exact h
  | declareTask task => exact h.congr rfl rfl rfl h.slot_lt

/-- Every profile that calls can lead to is well formed. -/
theorem WellFormed.run (h : p.WellFormed) (as : List Action) : (p.run as).WellFormed :=
  run_induction (fun _ a h => h.act a) h as

end ThreadProfile

end SimdProfile

import SimdProfile.Proofs.Profile.WellFormed

/-!
# What the calls add up to

A ledger is kept from the calls alone: which entries are recorded, which recorded entries have ended
and where, and, innermost first, the keys of the entries that are open. It knows nothing of tables,
places or ids. The regions of a profile are what the ledger of its calls says: one region a key, in the
order in which the keys were first entered, with the mask of its first entry, the number of its entries,
and the last line that any of its entries named.

The proof runs the two side by side. `Ledger.Matches` relates a ledger to a profile, `Matches.act` says
that every call keeps it, and `regions_of_calls` reads the regions off.
-/

namespace SimdProfile

/-- A recorded entry: its region, the end line that was hinted, and the mask. -/
structure Entry where
  key : RegionKey
  endLine : Int32
  mask : UInt64
  deriving DecidableEq, Repr

/-- What some calls say. An open entry that is not recorded has no key. -/
structure Ledger where
  entries : List Entry
  exits : List (RegionKey × Int32)
  openKeys : List (Option RegionKey)
  deriving DecidableEq, Repr

namespace Ledger

/-- No call. -/
def empty : Ledger := ⟨[], [], []⟩

/-- One more call. An end goes to the entry that was opened last and is still open. -/
def note (flags : Flags) (l : Ledger) : Action → Ledger
  | .enter kind startLine endLine mask _ =>
    if flags.contains kind.flag then
      { l with
        entries := l.entries ++ [⟨⟨startLine, kind⟩, endLine, mask⟩]
        openKeys := some ⟨startLine, kind⟩ :: l.openKeys }
    else { l with openKeys := none :: l.openKeys }
  | .suppress _ => { l with openKeys := none :: l.openKeys }
  | .leave _ _ line =>
    match l.openKeys with
    | [] => l
    | none :: rest => { l with openKeys := rest }
    | some key :: rest => { l with exits := l.exits ++ [(key, line)], openKeys := rest }
  | .observe _ _ => l
  | .declareTask _ => l

/-- The ledger of some calls, under the flags that say which kinds are recorded. -/
def ofCalls (flags : Flags) (as : List Action) : Ledger := as.foldl (note flags) empty

/-- The end lines that entries of a region named: the hint at its start and the line of its end. -/
def endLines (l : Ledger) (key : RegionKey) : List Int32 :=
  (l.entries.filter (·.key == key)).map (·.endLine) ++ (l.exits.filter (·.1 == key)).map (·.2)

/-- What a ledger says of one region. -/
structure Accounts (l : Ledger) (r : Region) : Prop where
  entries : r.entries = l.entries.countP (·.key == r.key)
  mask : (l.entries.find? (·.key == r.key)).map (·.mask) = some r.initialMask
  endLine_mem : r.endLine ∈ l.endLines r.key
  le_endLine : ∀ line ∈ l.endLines r.key, line ≤ r.endLine

/-- A ledger and a profile say the same. -/
structure Matches (l : Ledger) (p : ThreadProfile) : Prop where
  wellFormed : p.WellFormed
  keys : p.regions.map (·.key) = (l.entries.map (·.key)).eraseDups
  accounts : ∀ r ∈ p.regions, l.Accounts r
  exits : ∀ x ∈ l.exits, x.1 ∈ l.entries.map (·.key)
  openKeys : p.stack.map p.frameKey? = l.openKeys

variable {l m : Ledger} {p q : ThreadProfile} {r s : Region}

/-! ### One region -/

private theorem le_max (a b : Int32) : a ≤ max a b ∧ b ≤ max a b := by
  change a ≤ (if a ≤ b then b else a) ∧ b ≤ if a ≤ b then b else a
  split
  · next h => exact ⟨h, Int32.le_refl b⟩
  · next h => exact ⟨Int32.le_refl a, (Int32.le_total a b).resolve_left h⟩

private theorem max_eq_or (a b : Int32) : max a b = a ∨ max a b = b := by
  change (if a ≤ b then b else a) = a ∨ (if a ≤ b then b else a) = b
  split
  · exact .inr rfl
  · exact .inl rfl

/-- What a ledger says of a region depends on the region's key and counts alone. -/
theorem Accounts.of_eq (h : l.Accounts r) (key : s.key = r.key) (mask : s.initialMask = r.initialMask)
    (entries : s.entries = r.entries) (endLine : s.endLine = r.endLine) : l.Accounts s := by
  refine ⟨?_, ?_, ?_, ?_⟩
  · rw [entries, key, h.entries]
  · rw [key, mask, h.mask]
  · rw [key, endLine]
    exact h.endLine_mem
  · rw [key, endLine]
    exact h.le_endLine

/-- One more end line of a region that reaches to it. -/
private theorem Accounts.reach (h : l.Accounts r) (line : Int32)
    (mem : ∀ x, x ∈ m.endLines r.key ↔ x ∈ l.endLines r.key ∨ x = line) :
    max r.endLine line ∈ m.endLines r.key ∧ ∀ x ∈ m.endLines r.key, x ≤ max r.endLine line := by
  constructor
  · rw [mem]
    rcases max_eq_or r.endLine line with same | same
    · exact .inl (same.symm ▸ h.endLine_mem)
    · exact .inr same
  · intro x member
    rcases (mem x).mp member with member | rfl
    · exact Int32.le_trans (h.le_endLine x member) (le_max r.endLine line).1
    · exact (le_max r.endLine x).2

/-- The end of an entry of the region. -/
theorem Accounts.close (h : l.Accounts r) (sample : Option (Sample Float)) (line : Int32)
    (openKeys : List (Option RegionKey)) :
    Accounts ⟨l.entries, l.exits ++ [(r.key, line)], openKeys⟩ (r.close sample line) := by
  have reached := h.reach (m := ⟨l.entries, l.exits ++ [(r.key, line)], openKeys⟩) line <| by
    intro x
    simp [endLines, or_assoc]
  exact ⟨h.entries, h.mask, reached.1, reached.2⟩

/-- The end of an entry of another region. -/
theorem Accounts.close_other (h : l.Accounts r) {key : RegionKey} (other : r.key ≠ key)
    (line : Int32) (openKeys : List (Option RegionKey)) :
    Accounts ⟨l.entries, l.exits ++ [(key, line)], openKeys⟩ r := by
  have same : endLines ⟨l.entries, l.exits ++ [(key, line)], openKeys⟩ r.key = l.endLines r.key := by
    simp [endLines, Ne.symm other]
  refine ⟨h.entries, h.mask, ?_, ?_⟩
  · rw [same]
    exact h.endLine_mem
  · rw [same]
    exact h.le_endLine

/-- An entry into the region. -/
theorem Accounts.enter (h : l.Accounts r) (endLine : Int32) (mask : UInt64)
    (openKeys : List (Option RegionKey)) :
    Accounts ⟨l.entries ++ [⟨r.key, endLine, mask⟩], l.exits, openKeys⟩
      (r.reach endLine).countEntry := by
  have reached := h.reach (m := ⟨l.entries ++ [⟨r.key, endLine, mask⟩], l.exits, openKeys⟩)
    endLine <| by
      intro x
      simp [endLines, or_assoc, or_comm]
  refine ⟨?_, ?_, reached.1, reached.2⟩
  · simp [Region.countEntry, Region.reach, h.entries]
  · obtain ⟨e, found, same⟩ := Option.map_eq_some_iff.mp h.mask
    simp [Region.countEntry, Region.reach, List.find?_append, found, same]

/-- An entry into another region. -/
theorem Accounts.enter_other (h : l.Accounts r) {e : Entry} (other : r.key ≠ e.key)
    (openKeys : List (Option RegionKey)) : Accounts ⟨l.entries ++ [e], l.exits, openKeys⟩ r := by
  have same : endLines ⟨l.entries ++ [e], l.exits, openKeys⟩ r.key = l.endLines r.key := by
    simp [endLines, Ne.symm other]
  refine ⟨?_, ?_, ?_, ?_⟩
  · simp [h.entries, Ne.symm other]
  · obtain ⟨first, found, same⟩ := Option.map_eq_some_iff.mp h.mask
    simp [List.find?_append, found, same]
  · rw [same]
    exact h.endLine_mem
  · rw [same]
    exact h.le_endLine

/-- The first entry into a region. -/
theorem Accounts.create (id : RegionId) {key : RegionKey} (endLine : Int32) (mask : UInt64)
    (openKeys : List (Option RegionKey)) (entries : ∀ e ∈ l.entries, e.key ≠ key)
    (exits : ∀ x ∈ l.exits, x.1 ≠ key) :
    Accounts ⟨l.entries ++ [⟨key, endLine, mask⟩], l.exits, openKeys⟩
      (Region.create id key endLine mask).countEntry := by
  have no_entry : l.entries.filter (·.key == key) = [] := by
    simpa [List.filter_eq_nil_iff] using entries
  have no_exit : l.exits.filter (·.1 == key) = [] := by
    simpa [List.filter_eq_nil_iff] using exits
  have only : endLines ⟨l.entries ++ [⟨key, endLine, mask⟩], l.exits, openKeys⟩ key = [endLine] := by
    simp [endLines, no_entry, no_exit]
  have none_of : l.entries.countP (·.key == key) = 0 := by
    simpa [List.countP_eq_zero] using entries
  refine ⟨?_, ?_, ?_, ?_⟩
  · simp [Region.create, Region.countEntry, none_of]
  · have none_found : l.entries.find? (·.key == key) = none := by
      simpa [List.find?_eq_none] using entries
    simp [Region.create, Region.countEntry, List.find?_append, none_found]
  · change endLine ∈ endLines _ key
    simp [only]
  · intro line member
    change line ∈ endLines _ key at member
    rw [only, List.mem_singleton] at member
    exact member ▸ Int32.le_refl line

/-! ### Calls -/

private theorem eraseDups_concat_of_mem {α : Type} [BEq α] [LawfulBEq α] {as : List α} {a : α}
    (h : a ∈ as) : (as ++ [a]).eraseDups = as.eraseDups := by
  simp [List.eraseDups_append, List.removeAll, h]

private theorem eraseDups_concat_of_not_mem {α : Type} [BEq α] [LawfulBEq α] {as : List α} {a : α}
    (h : a ∉ as) : (as ++ [a]).eraseDups = as.eraseDups ++ [a] := by
  simp [List.eraseDups_append, List.removeAll, h, List.eraseDups_cons]

theorem matches_create (owner : ThreadId) (d : Declaration) :
    Matches empty (ThreadProfile.create owner d) where
  wellFormed := ThreadProfile.wellFormed_create owner d
  keys := rfl
  accounts := by simp [ThreadProfile.create]
  exits := by simp [empty]
  openKeys := rfl

theorem Matches.mem_keys (h : l.Matches p) {key : RegionKey} :
    key ∈ l.entries.map (·.key) ↔ ∃ r ∈ p.regions, r.key = key := by
  rw [← List.mem_eraseDups, ← h.keys, List.mem_map]

/-- The frames of a profile keep their keys while calls go on. -/
theorem Matches.keys_of_later (h : l.Matches p) (later : p.identities <+: q.identities) :
    p.stack.map q.frameKey? = l.openKeys := by
  rw [← h.openKeys]
  apply List.map_congr_left
  intro frame member
  cases frame with
  | suppressed kind => rfl
  | recorded slot base =>
    rw [ThreadProfile.frameKey?, ThreadProfile.frameKey?,
      ThreadProfile.frameIdentity?_of_later later (h.wellFormed.slot_lt slot base member)]

/-- A change of one region that leaves its identity alone keeps the keys of all regions. -/
theorem keys_amendRegion (p : ThreadProfile) (slot : Nat) {f : Region → Region}
    (same : ∀ r, (f r).identity = r.identity) :
    (p.amendRegion slot f).regions.map (·.key) = p.regions.map (·.key) := by
  have := congrArg (List.map Region.Identity.key) (p.identities_amendRegion slot same)
  simpa [ThreadProfile.identities, Function.comp_def, Region.identity] using this

theorem Matches.suppress (h : l.Matches p) (kind : RegionKind) :
    Matches ⟨l.entries, l.exits, none :: l.openKeys⟩ (p.suppress kind) where
  wellFormed := h.wellFormed.suppress kind
  keys := h.keys
  accounts r member :=
    have a := h.accounts r member
    ⟨a.entries, a.mask, a.endLine_mem, a.le_endLine⟩
  exits := h.exits
  openKeys := congrArg (none :: ·) h.openKeys

theorem Matches.observe (h : l.Matches p) (line : Int32) (mask : UInt64) :
    l.Matches (p.act (.observe line mask)) := by
  have wellFormed := h.wellFormed.act (.observe line mask)
  have kept := h.keys_of_later (p.identities_act (.observe line mask))
  cases hs : p.stack with
  | nil =>
    simp only [ThreadProfile.act_observe, hs]
    exact h
  | cons frame rest =>
    cases frame with
    | suppressed kind =>
      simp only [ThreadProfile.act_observe, hs]
      exact h
    | recorded slot base =>
      have top : Frame.recorded slot base ∈ p.stack := hs ▸ .head _
      obtain ⟨key, place, -⟩ := h.wellFormed.exists_key top
      simp only [ThreadProfile.act_observe, hs] at wellFormed kept ⊢
      rw [← hs] at kept
      refine ⟨wellFormed, (keys_amendRegion p slot fun _ => by rfl).trans h.keys, ?_, h.exits, kept⟩
      intro r member
      rcases h.wellFormed.mem_amendRegion place member with ⟨s, old, -, rfl⟩ | ⟨old, -⟩
      · exact (h.accounts s old).of_eq rfl rfl rfl rfl
      · exact h.accounts r old

theorem Matches.leave (h : l.Matches p) (flags : Flags)
    (measure : Snapshot → Snapshot → Sample Float) (exit : Option Snapshot) (line : Int32) :
    (l.note flags (.leave measure exit line)).Matches (p.act (.leave measure exit line)) := by
  have wellFormed := h.wellFormed.act (.leave measure exit line)
  have kept := h.keys_of_later (p.identities_act (.leave measure exit line))
  cases hs : p.stack with
  | nil =>
    have none_open : l.openKeys = [] := by rw [← h.openKeys, hs]; rfl
    simp only [ThreadProfile.act_leave, hs, note, none_open]
    exact h
  | cons frame rest =>
    cases frame with
    | suppressed kind =>
      simp only [ThreadProfile.act_leave, hs, note] at wellFormed kept ⊢
      rw [← kept]
      refine ⟨wellFormed, h.keys, ?_, h.exits, rfl⟩
      intro r member
      have a := h.accounts r member
      exact ⟨a.entries, a.mask, a.endLine_mem, a.le_endLine⟩
    | recorded slot base =>
      have top : Frame.recorded slot base ∈ p.stack := hs ▸ .head _
      obtain ⟨key, place, named⟩ := h.wellFormed.exists_key top
      have opened : l.openKeys = some key :: rest.map p.frameKey? := by
        rw [← h.openKeys, hs, List.map_cons, named]
      simp only [ThreadProfile.act_leave, hs, note, opened] at wellFormed kept ⊢
      refine ⟨wellFormed, (keys_amendRegion p slot fun _ => by rfl).trans h.keys, ?_, ?_,
        (List.cons.inj kept).2⟩
      · intro r member
        rcases h.wellFormed.mem_amendRegion place member with ⟨s, old, rfl, rfl⟩ | ⟨old, other⟩
        · exact (h.accounts s old).close _ line _
        · exact (h.accounts r old).close_other other line _
      · intro x member
        rcases List.mem_append.mp member with member | member
        · exact h.exits x member
        · obtain ⟨r, found, rfl⟩ := (h.wellFormed.slot_iff key slot).mp place
          rw [List.mem_singleton.mp member]
          exact h.mem_keys.mpr ⟨r, List.mem_of_getElem? found, rfl⟩

theorem Matches.enter (h : l.Matches p) (kind : RegionKind) (startLine endLine : Int32)
    (mask : UInt64) (snapshot : Option Snapshot) :
    (l.note p.declaration.flags (.enter kind startLine endLine mask snapshot)).Matches
      (p.act (.enter kind startLine endLine mask snapshot)) := by
  have wellFormed := h.wellFormed.enter kind startLine endLine mask snapshot
  have kept := h.keys_of_later (p.identities_enter kind startLine endLine mask snapshot)
  cases hr : p.records kind with
  | false =>
    have filtered : p.declaration.flags.contains kind.flag = false := hr
    simp only [note, filtered, ThreadProfile.act, ThreadProfile.enter_of_not_records hr]
    exact h.suppress kind
  | true =>
    have recorded : p.declaration.flags.contains kind.flag = true := hr
    simp only [note, recorded, if_true, ThreadProfile.act]
    cases hs : p.slot? ⟨startLine, kind⟩ with
    | some slot =>
      have later := p.identities_enter kind startLine endLine mask snapshot
      rw [ThreadProfile.enter_of_known hr hs] at wellFormed kept later ⊢
      obtain ⟨r, found, named⟩ := (h.wellFormed.slot_iff _ slot).mp hs
      have known : (⟨startLine, kind⟩ : RegionKey) ∈ l.entries.map (·.key) :=
        h.mem_keys.mpr ⟨r, List.mem_of_getElem? found, named⟩
      refine ⟨wellFormed, ?_, ?_, ?_, ?_⟩
      · rw [List.map_append, List.map_singleton, eraseDups_concat_of_mem known, ← h.keys]
        exact keys_amendRegion p slot fun _ => by rfl
      · intro s member
        rcases h.wellFormed.mem_amendRegion hs member with ⟨s, old, same, rfl⟩ | ⟨old, other⟩
        · rw [← same]
          exact (h.accounts s old).enter endLine mask _
        · exact (h.accounts s old).enter_other other _
      · intro x member
        rw [List.map_append]
        exact List.mem_append_left _ (h.exits x member)
      · rw [List.map_cons, kept]
        congr 1
        have below := (List.getElem?_eq_some_iff.mp found).1
        rw [ThreadProfile.frameKey?, ThreadProfile.frameIdentity?_of_later later below,
          ← ThreadProfile.frameKey?, ThreadProfile.frameKey?_recorded, found, ← named]
        rfl
    | none =>
      rw [ThreadProfile.enter_of_new hr hs] at wellFormed kept ⊢
      have fresh : (⟨startLine, kind⟩ : RegionKey) ∉ l.entries.map (·.key) := by
        intro member
        obtain ⟨r, old, same⟩ := h.mem_keys.mp member
        exact h.wellFormed.key_ne hs old same
      refine ⟨wellFormed, ?_, ?_, ?_, ?_⟩
      · rw [List.map_append, List.map_append, h.keys]
        exact (eraseDups_concat_of_not_mem fresh).symm
      · intro r member
        rcases List.mem_append.mp member with old | new
        · exact (h.accounts r old).enter_other (h.wellFormed.key_ne hs old) _
        · rw [List.mem_singleton.mp new]
          refine Accounts.create _ endLine mask _ ?_ ?_
          · rintro e member same
            exact fresh (same ▸ List.mem_map_of_mem member)
          · rintro x member same
            exact fresh (same ▸ h.exits x member)
      · intro x member
        rw [List.map_append]
        exact List.mem_append_left _ (h.exits x member)
      · rw [List.map_cons, kept]
        simp [ThreadProfile.frameKey?_recorded, Region.create, Region.countEntry]

/-- Every call keeps the ledger and the profile together. -/
theorem Matches.act (h : l.Matches p) (a : Action) :
    (l.note p.declaration.flags a).Matches (p.act a) := by
  cases a with
  | enter kind startLine endLine mask snapshot => exact h.enter kind startLine endLine mask snapshot
  | suppress kind => exact h.suppress kind
  | leave measure exit line => exact h.leave _ measure exit line
  | observe line mask => exact h.observe line mask
  | declareTask task => exact ⟨h.wellFormed.act _, h.keys, h.accounts, h.exits, h.openKeys⟩

/-- Every run of calls keeps them together. -/
theorem Matches.run (h : l.Matches p) (as : List Action) :
    Matches (as.foldl (note p.declaration.flags) l) (p.run as) := by
  induction as generalizing l p with
  | nil => exact h
  | cons a as ih =>
    have next := ih (h.act a)
    rwa [ThreadProfile.declaration_act] at next

/-! ### The regions of a run -/

theorem length_entries_note (flags : Flags) (l : Ledger) (a : Action) :
    (l.note flags a).entries.length ≤ l.entries.length + if a.isEnter then 1 else 0 := by
  cases a with
  | enter kind startLine endLine mask snapshot =>
    rw [note]
    split <;> simp [Action.isEnter]
  | leave measure exit line =>
    rw [note]
    split <;> simp
  | suppress kind => simp [note]
  | observe line mask => simp [note]
  | declareTask task => simp [note]

/-- There are no more recorded entries than calls to enter. -/
theorem length_entries_le (flags : Flags) (l : Ledger) (as : List Action) :
    (as.foldl (note flags) l).entries.length ≤ l.entries.length + as.countP (·.isEnter) := by
  induction as generalizing l with
  | nil => exact Nat.le_refl _
  | cons a as ih =>
    have first := length_entries_note flags l a
    have rest := ih (l.note flags a)
    rw [List.foldl_cons, List.countP_cons]
    omega

private theorem length_eraseDups_le {α : Type} [BEq α] [LawfulBEq α] :
    ∀ as : List α, as.eraseDups.length ≤ as.length
  | [] => Nat.le_refl _
  | a :: as => by
    have shorter := List.length_filter_le (fun b => !b == a) as
    have rest := length_eraseDups_le (as.filter fun b => !b == a)
    rw [List.eraseDups_cons, List.length_cons, List.length_cons]
    omega
termination_by as => as.length
decreasing_by exact Nat.lt_succ_of_le shorter

/-- The regions of a profile are what its calls prescribe. The keys of the regions are the keys of the
recorded entries, each once and in the order they were first entered. A region has its place as its id,
the mask of its first entry, the number of its entries, and the greatest of the end lines that its
entries named; it is found by its key. A report lists the same regions in the order of their ids, each
with its kind, its lines and its mask, and its words hold ids and counts in full. -/
theorem regions_account_for_calls (owner : ThreadId) (d : Declaration) (calls : List Action)
    (few : calls.countP (·.isEnter) < UInt64.size) :
    let p := (ThreadProfile.create owner d).run calls
    let l := ofCalls d.flags calls
    p.regions.map (·.key) = (l.entries.map (·.key)).eraseDups ∧
    (∀ (i : Nat) (r : Region), p.regions[i]? = some r →
      r.id = i ∧
      (l.entries.find? (·.key == r.key)).map (·.mask) = some r.initialMask ∧
      r.entries = l.entries.countP (·.key == r.key) ∧
      r.endLine ∈ l.endLines r.key ∧ ∀ line ∈ l.endLines r.key, line ≤ r.endLine) ∧
    (∀ key, p.region? key = p.regions.find? (·.key == key)) ∧
    p.report.regions = p.regions.map (·.toRecord) ∧
    p.report.regions.map (fun r => (⟨r.startLine, r.kind⟩ : RegionKey)) = p.regions.map (·.key) ∧
    p.report.regions.map (·.endLine) = p.regions.map (·.endLine) ∧
    p.report.regions.map (·.initialMask) = p.regions.map (·.initialMask) ∧
    p.report.regions.map (·.id.toNat) = List.range p.regions.length ∧
    p.report.regions.map (·.entryCount.toNat) = p.regions.map (·.entries) := by
  intro p l
  have h : l.Matches p := (matches_create owner d).run calls
  have listed := h.wellFormed.report_regions
  have entered : l.entries.length < UInt64.size := by
    have := length_entries_le d.flags empty calls
    simp only [empty, List.length_nil, Nat.zero_add] at this
    exact Nat.lt_of_le_of_lt this few
  have count : p.regions.length < UInt64.size := by
    have := congrArg List.length h.keys
    rw [List.length_map] at this
    have fewer := length_eraseDups_le (l.entries.map (·.key))
    rw [List.length_map] at fewer
    omega
  -- a field of the records that a region has as well
  have copied {β : Type} {inRecord : RegionRecord → β} {inRegion : Region → β}
      (same : ∀ r : Region, inRecord r.toRecord = inRegion r) :
      p.report.regions.map inRecord = p.regions.map inRegion := by
    rw [listed, List.map_map]
    exact List.map_congr_left fun r _ => same r
  refine ⟨h.keys, ?_, h.wellFormed.region?_eq, listed, copied fun _ => rfl, copied fun _ => rfl,
    copied fun _ => rfl, ?_, ?_⟩
  · intro i r found
    have a := h.accounts r (List.mem_of_getElem? found)
    exact ⟨h.wellFormed.id_eq i r found, a.mask, a.entries, a.endLine_mem, a.le_endLine⟩
  · rw [listed, List.map_map]
    apply List.ext_getElem
    · simp
    · intro i hi _
      simp only [List.length_map] at hi
      have small : i < UInt64.size := Nat.lt_trans hi count
      simp only [List.getElem_map, Function.comp_apply, List.getElem_range, Region.toRecord]
      rw [h.wellFormed.id_eq i _ (List.getElem?_eq_getElem hi)]
      exact UInt64.toNat_ofNat_of_lt small
  · rw [listed, List.map_map]
    apply List.map_congr_left
    intro r member
    have few_entries : r.entries < UInt64.size := by
      rw [(h.accounts r member).entries]
      exact Nat.lt_of_le_of_lt List.countP_le_length entered
    exact UInt64.toNat_ofNat_of_lt few_entries

/-- A recursive function with a loop inside, a suppressed entry, and one end too many. -/
theorem regions_account_for_recursive_calls :
    let d : Declaration := ⟨"kernel", 1, 8, .allNoCounters⟩
    let metrics := Counters.Source.disabled.measure
    let calls : List Action :=
      [.enter .function 1 30 0xff none, .enter .loop 5 9 0x0f none, .enter .function 1 40 0x01 none,
        .suppress .switch, .leave metrics none 99, .leave metrics none 35, .leave metrics none 7,
        .leave metrics none 45, .leave metrics none 50]
    let p := (ThreadProfile.create ⟨1⟩ d).run calls
    calls.countP (·.isEnter) < UInt64.size ∧
    p.regions.map (·.key) = [⟨1, .function⟩, ⟨5, .loop⟩] ∧
    ∀ r, p.regions[0]? = some r →
      r.id = 0 ∧ r.initialMask = 0xff ∧ r.entries = 2 ∧ r.endLine = 45 := by
  intro d metrics calls p
  have few : calls.countP (·.isEnter) < UInt64.size := by decide
  obtain ⟨keys, regions, -⟩ := regions_account_for_calls ⟨1⟩ d calls few
  have named : p.regions.map (·.key) = [⟨1, .function⟩, ⟨5, .loop⟩] := keys.trans (by decide)
  refine ⟨few, named, ?_⟩
  intro r found
  have key : r.key = ⟨1, .function⟩ := by
    have := congrArg (·[0]?) named
    simpa [found] using this
  obtain ⟨id, mask, entries, named, above⟩ := regions 0 r found
  rw [key] at mask entries named above
  refine ⟨id, ?_, entries.trans (by decide), ?_⟩
  · exact (Option.some.inj (mask.symm.trans (by decide)))
  · have lines : (ofCalls d.flags calls).endLines ⟨1, .function⟩ = [30, 40, 35, 45] := by decide
    rw [lines] at named above
    have last := above 45 (by decide)
    simp only [List.mem_cons, List.not_mem_nil, or_false] at named
    rcases named with same | same | same | same
    · exact absurd (same ▸ last) (by decide)
    · exact absurd (same ▸ last) (by decide)
    · exact absurd (same ▸ last) (by decide)
    · exact same

end Ledger

end SimdProfile

import SimdProfile.Proofs.Profile.Entries
import SimdProfile.Proofs.Roster.Handover

/-!
# Places that are looked up

The table and the frames name regions by their places in the list, and a look past its end would find
nothing. In a profile that calls and detachments lead to, from a new one on, no look does: `Resolves` says
so for each operation. Besides `detach`, which leaves an empty profile behind, no operation removes a
region or moves it, and its id, key and initial mask stay.
-/

namespace SimdProfile

namespace ThreadProfile

/-- The profiles that calls and detachments lead to from a new one. A detachment leads to two: the one
that is moved out and the one that is left behind. -/
inductive Reachable (owner : ThreadId) (d : Declaration) : ThreadProfile → Prop where
  | create : Reachable owner d (create owner d)
  | act {p : ThreadProfile} (a : Action) (before : Reachable owner d p) : Reachable owner d (p.act a)
  | movedOut {p : ThreadProfile} (before : Reachable owner d p) : Reachable owner d p.detach.1
  | leftBehind {p : ThreadProfile} (before : Reachable owner d p) : Reachable owner d p.detach.2

/-- Every place that an operation looks up is one of the list of regions. The answers show it: they are
ids of regions, which are found there, and not missing. -/
structure Resolves (p : ThreadProfile) : Prop where
  region : ∀ key slot, p.slot? key = some slot →
    ∃ r, p.regions[slot]? = some r ∧ p.region? key = some r
  innermost : ∀ slot base rest, p.stack = .recorded slot base :: rest →
    ∃ r, p.regions[slot]? = some r ∧ p.innermost? = some r ∧ p.innermostKind? = some r.key.kind
  intern : ∀ key endLine mask,
    (p.intern key endLine mask).2 < (p.intern key endLine mask).1.regions.length
  enter : ∀ kind startLine endLine mask snapshot, p.records kind →
    ∃ slot, (p.enter kind startLine endLine mask snapshot).2 = some slot ∧
      slot < (p.enter kind startLine endLine mask snapshot).1.regions.length
  leave : ∀ slot base rest, p.stack = .recorded slot base :: rest →
    slot < p.regions.length ∧ ∀ measure exit line,
      p.leave measure exit line = .ok (p.act (.leave measure exit line), some slot)
  observe : ∀ slot base rest, p.stack = .recorded slot base :: rest →
    slot < p.regions.length ∧ ∀ line mask,
      p.observe line mask = .ok (p.act (.observe line mask), some slot)

variable {p : ThreadProfile} {owner : ThreadId} {d : Declaration}

theorem length_regions_amendRegion (p : ThreadProfile) (slot : Nat) (f : Region → Region) :
    (p.amendRegion slot f).regions.length = p.regions.length :=
  List.length_modify ..

theorem WellFormed.slot_lt_of_slot? (h : p.WellFormed) {key : RegionKey} {slot : Nat}
    (known : p.slot? key = some slot) : slot < p.regions.length := by
  obtain ⟨r, found, -⟩ := (h.slot_iff key slot).mp known
  exact (List.getElem?_eq_some_iff.mp found).1

/-- Every place has one key: the table is a bijection. -/
theorem WellFormed.existsUnique_key (h : p.WellFormed) {slot : Nat} (below : slot < p.regions.length) :
    ∃! key, p.slot? key = some slot := by
  have found := List.getElem?_eq_getElem below
  refine ⟨p.regions[slot].key, (h.slot_iff _ slot).mpr ⟨_, found, rfl⟩, ?_⟩
  intro key known
  obtain ⟨r, same, rfl⟩ := (h.slot_iff key slot).mp known
  rw [found] at same
  rw [Option.some.inj same]

theorem WellFormed.idAt?_eq (h : p.WellFormed) {slot : Nat} (below : slot < p.regions.length) :
    p.idAt? slot = some slot := by
  rw [← ThreadProfile.frameId?_recorded p slot none]
  exact h.frameId?_recorded below none

theorem WellFormed.intern_lt (h : p.WellFormed) (key : RegionKey) (endLine : Int32) (mask : UInt64) :
    (p.intern key endLine mask).2 < (p.intern key endLine mask).1.regions.length := by
  unfold ThreadProfile.intern
  split
  · next slot known =>
    rw [length_regions_amendRegion]
    exact h.slot_lt_of_slot? known
  · simp

theorem WellFormed.enter_answer_lt (h : p.WellFormed) {kind : RegionKind} (recorded : p.records kind)
    (startLine endLine : Int32) (mask : UInt64) (snapshot : Option Snapshot) :
    ∃ slot, (p.enter kind startLine endLine mask snapshot).2 = some slot ∧
      slot < (p.enter kind startLine endLine mask snapshot).1.regions.length := by
  cases hs : p.slot? ⟨startLine, kind⟩ with
  | some slot =>
    have after := h.enter kind startLine endLine mask snapshot
    have below := h.slot_lt_of_slot? hs
    rw [enter_of_known recorded hs] at after ⊢
    have kept := length_regions_amendRegion p slot fun r => (r.reach endLine).countEntry
    exact ⟨slot, after.idAt?_eq (kept ▸ below), kept ▸ below⟩
  | none =>
    rw [enter_of_new recorded hs]
    exact ⟨p.nextId, rfl, by simp [h.nextId_eq]⟩

theorem WellFormed.resolves (h : p.WellFormed) : p.Resolves where
  region := by
    intro key slot known
    obtain ⟨r, found, -⟩ := (h.slot_iff key slot).mp known
    refine ⟨r, found, ?_⟩
    rw [region?, known]
    exact found
  innermost := by
    intro slot base rest top
    have below := h.slot_lt slot base (top ▸ List.mem_cons_self)
    have found := List.getElem?_eq_getElem below
    refine ⟨_, found, ?_, ?_⟩
    · rw [innermost?, top]
      exact found
    · rw [innermostKind?, top]
      exact congrArg (Option.map (·.key.kind)) found
  intern := h.intern_lt
  enter := fun kind startLine endLine mask snapshot recorded =>
    h.enter_answer_lt recorded startLine endLine mask snapshot
  leave := by
    intro slot base rest top
    have below := h.slot_lt slot base (top ▸ List.mem_cons_self)
    refine ⟨below, ?_⟩
    intro measure exit line
    rw [leave_eq, top]
    exact congrArg (fun id => Except.ok (_, id)) (h.frameId?_recorded below base)
  observe := by
    intro slot base rest top
    have below := h.slot_lt slot base (top ▸ List.mem_cons_self)
    refine ⟨below, ?_⟩
    intro line mask
    have kept := p.idAt?_amendRegion slot slot
      (f := (·.observe line mask p.declaration.laneWidth.toNat)) fun _ => rfl
    rw [act_observe, ThreadProfile.observe, top]
    exact congrArg (fun id => Except.ok (_, id)) (kept.trans (h.idAt?_eq below))

/-- A place stays that of its key. -/
theorem WellFormed.slot?_act (h : p.WellFormed) (a : Action) {key : RegionKey} {slot : Nat}
    (known : p.slot? key = some slot) : (p.act a).slot? key = some slot := by
  obtain ⟨r, found, rfl⟩ := (h.slot_iff key slot).mp known
  have below := h.slot_lt_of_slot? known
  have same : (p.act a).frameIdentity? (.recorded slot none) = p.frameIdentity? (.recorded slot none) :=
    frameIdentity?_of_later (p.identities_act a) below none
  have identity : p.frameIdentity? (.recorded slot none) = some r.identity :=
    congrArg (Option.map Region.identity) found
  obtain ⟨r', found', unchanged⟩ := Option.map_eq_some_iff.mp (same.trans identity)
  exact ((h.act a).slot_iff _ slot).mpr ⟨r', found', congrArg Region.Identity.key unchanged⟩

theorem Reachable.wellFormed (reached : Reachable owner d p) : p.WellFormed := by
  induction reached with
  | create => exact wellFormed_create owner d
  | act a before ih => exact ih.act a
  | movedOut before ih => exact ih
  | leftBehind before ih => exact wellFormed_create _ _

/-- **Whatever calls and detachments led to a profile, its table and its regions match place by place, and
no operation looks past the list of regions.** No call removes a region or changes its place or identity. -/
theorem reachable_profile_resolves (reached : Reachable owner d p) :
    ((∀ key slot, p.slot? key = some slot ↔
        ∃ r : Region, p.regions[slot]? = some r ∧ r.key = key) ∧
      ∀ slot < p.regions.length, ∃! key, p.slot? key = some slot) ∧
    (∀ slot (r : Region), p.regions[slot]? = some r → r.id = slot) ∧
    p.nextId = p.regions.length ∧
    (∀ slot base, Frame.recorded slot base ∈ p.stack → slot < p.regions.length) ∧
    p.Resolves ∧
    ∀ a, p.identities <+: (p.act a).identities ∧
      ∀ key slot, p.slot? key = some slot → (p.act a).slot? key = some slot := by
  have h : p.WellFormed := reached.wellFormed
  refine ⟨⟨h.slot_iff, fun slot below => h.existsUnique_key below⟩, h.id_eq, h.nextId_eq, h.slot_lt,
    h.resolves, ?_⟩
  intro a
  exact ⟨p.identities_act a, fun key slot known => h.slot?_act a known⟩

/-- A recursive function with a loop in it, detached while three entries are open: the profile that
is moved out goes on with its regions, and the one that is left behind begins anew. -/
theorem detached_function_resolves :
    let d : Declaration := ⟨"kernel", 1, 8, .allNoCounters⟩
    let p := (((create ⟨1⟩ d).act (.enter .function 1 30 0xff none)).act (.enter .loop 5 9 0x0f none)).act
      (.enter .function 1 40 0x01 none)
    let out := p.detach.1.act (.observe 7 0x0f)
    let behind := p.detach.2.act (.enter .loop 5 9 0x0f none)
    (Reachable ⟨1⟩ d out ∧ (∀ slot < 2, ∃! key, out.slot? key = some slot) ∧
      ∃ r, out.regions[0]? = some r ∧ out.innermost? = some r) ∧
    Reachable ⟨1⟩ d behind ∧ behind.slot? ⟨5, .loop⟩ = some 0 ∧ behind.nextId = 1 ∧
      ∃ r, behind.regions[0]? = some r ∧ behind.innermost? = some r := by
  intro d p out behind
  have reached : Reachable ⟨1⟩ d p := .act _ (.act _ (.act _ .create))
  have outReached : Reachable ⟨1⟩ d out := .act _ (.movedOut reached)
  have behindReached : Reachable ⟨1⟩ d behind := .act _ (.leftBehind reached)
  obtain ⟨⟨-, places⟩, -, -, -, resolves, -⟩ := reachable_profile_resolves outReached
  obtain ⟨-, -, next, -, resolvesBehind, -⟩ := reachable_profile_resolves behindReached
  have two : out.regions.length = 2 := by decide
  have one : behind.regions.length = 1 := by decide
  have top : out.stack = [.recorded 0 none, .recorded 1 none, .recorded 0 none] := by decide
  have topBehind : behind.stack = [.recorded 0 none] := by decide
  obtain ⟨r, found, innermost, -⟩ := resolves.innermost _ _ _ top
  obtain ⟨r', found', innermost', -⟩ := resolvesBehind.innermost _ _ _ topBehind
  exact ⟨⟨outReached, two ▸ places, r, found, innermost⟩, behindReached, by decide, next.trans one,
    r', found', innermost'⟩

end ThreadProfile

end SimdProfile

import Mathlib.Algebra.Ring.Nat
import SimdProfile.Proofs.Profile.WellFormed

/-!
# Observations

An observation of a line adds to the two tallies of that line in the region of the innermost frame. A
histogram lists its lines by ascending number, so the tally of a line is found where it was added to:
`Histogram.Ascending.tally?_add`. All the lines of all regions together count the observations that went
to a region: `WellFormed.observations_observe`.
-/

namespace SimdProfile

namespace Histogram

/-- Every line is listed once, by ascending number. -/
def Ascending (h : Histogram) : Prop := (h.lines.map (·.1)).Pairwise (· < ·)

/-- The sum of the totals of all lines. -/
def total (h : Histogram) : Nat := (h.lines.map (·.2.total)).sum

variable {h : Histogram} {line other : Int32} {ls : List (Int32 × Tally)}

private theorem mem_addTo {total hits : Nat} (member : other ∈ (addTo line total hits ls).map (·.1)) :
    other = line ∨ other ∈ ls.map (·.1) := by
  induction ls with
  | nil => simpa [addTo] using member
  | cons entry rest ih =>
    obtain ⟨l, t⟩ := entry
    rw [addTo] at member
    split at member
    · simpa using member
    · split at member
      · exact .inr (by simpa using member)
      · rw [List.map_cons, List.mem_cons] at member ⊢
        rcases member with same | member
        · exact .inr (.inl same)
        · exact (ih member).imp id .inr

theorem Ascending.add (ascending : h.Ascending) (line : Int32) (total hits : Nat) :
    (h.add line total hits).Ascending := by
  obtain ⟨ls⟩ := h
  simp only [Ascending, Histogram.add] at ascending ⊢
  induction ls with
  | nil => exact List.pairwise_singleton ..
  | cons entry rest ih =>
    obtain ⟨l, t⟩ := entry
    obtain ⟨above, sorted⟩ := List.pairwise_cons.mp ascending
    rw [addTo]
    split
    · next before =>
      refine List.pairwise_cons.mpr ⟨fun k member => ?_, ascending⟩
      rcases List.mem_cons.mp member with rfl | member
      · exact before
      · exact Int32.lt_trans before (above k member)
    · next notBefore =>
      split
      · exact ascending
      · next differs =>
        refine List.pairwise_cons.mpr ⟨fun k member => ?_, ih sorted⟩
        rcases mem_addTo member with rfl | member
        · exact Int32.lt_of_le_of_ne (Int32.not_lt.mp notBefore) (Ne.symm differs)
        · exact above k member

private theorem lookup_of_above {l : Int32} (above : ∀ k ∈ ls.map (·.1), l < k) :
    ls.lookup l = none := by
  rw [List.lookup_eq_none_iff]
  intro entry member
  exact bne_iff_ne.mpr (Int32.ne_of_lt (above _ (List.mem_map_of_mem member)))

/-- An observation adds to the tally of its line and to no other. -/
theorem Ascending.tally?_add (ascending : h.Ascending) (line other : Int32) (total hits : Nat) :
    (h.add line total hits).tally? other =
      if other = line then some (((h.tally? line).getD .empty).add total hits)
      else h.tally? other := by
  split
  case isFalse differs => exact tally?_add_of_ne differs h total hits
  case isTrue same =>
    subst same
    obtain ⟨ls⟩ := h
    simp only [Ascending, tally?, Histogram.add] at ascending ⊢
    induction ls with
    | nil => simp [addTo]
    | cons entry rest ih =>
      obtain ⟨l, t⟩ := entry
      obtain ⟨above, sorted⟩ := List.pairwise_cons.mp ascending
      rw [addTo]
      split
      · next before =>
        have absent : ((l, t) :: rest).lookup other = none := by
          refine lookup_of_above fun k member => ?_
          rcases List.mem_cons.mp member with rfl | member
          · exact before
          · exact Int32.lt_trans before (above k member)
        rw [absent, List.lookup_cons_self]
        rfl
      · split
        · next same =>
          subst same
          simp [List.lookup_cons_self]
        · next differs =>
          simp only [List.lookup_cons, beq_false_of_ne differs]
          exact ih sorted

theorem total_add (h : Histogram) (line : Int32) (total hits : Nat) :
    (h.add line total hits).total = h.total + total := by
  obtain ⟨ls⟩ := h
  simp only [Histogram.total, Histogram.add]
  induction ls with
  | nil => simp [addTo, Tally.add, Tally.empty]
  | cons entry rest ih =>
    obtain ⟨l, t⟩ := entry
    rw [addTo]
    split
    · simp [Tally.add, Tally.empty, Nat.add_comm]
    · split
      · simp [Tally.add, Nat.add_right_comm]
      · simp [ih, Nat.add_assoc]

end Histogram

namespace Region

/-- What a new region has and nothing that is done to a region takes away. -/
structure Lasting (P : Region → Prop) : Prop where
  create : ∀ id key endLine mask, P (.create id key endLine mask)
  reach : ∀ r line, P r → P (r.reach line)
  countEntry : ∀ r, P r → P r.countEntry
  close : ∀ r sample line, P r → P (r.close sample line)
  observe : ∀ r line mask width, P r → P (r.observe line mask width)

/-- Both tallies of a region by ascending line. -/
def Ascending (r : Region) : Prop := r.laneUsage.Ascending ∧ r.fullMask.Ascending

theorem lasting_ascending : Lasting Ascending where
  create _ _ _ _ := ⟨.nil, .nil⟩
  reach _ _ h := h
  countEntry _ h := h
  close _ _ _ h := h
  observe _ _ _ _ h := ⟨h.1.add .., h.2.add ..⟩

/-- A region after one more observation of a line: its two tallies of this line count the lanes that ran
and whether they were all; the rest of it is as before. -/
structure ObservedAt (before after : Region) (line : Int32) (mask : UInt64) (width : Nat) : Prop where
  rest : { after with laneUsage := before.laneUsage, fullMask := before.fullMask } = before
  laneUsage : ∀ other, after.laneUsage.tally? other =
    if other = line then
      some (((before.laneUsage.tally? line).getD .empty).add width (LaneMask.count mask width))
    else before.laneUsage.tally? other
  fullMask : ∀ other, after.fullMask.tally? other =
    if other = line then
      some (((before.fullMask.tally? line).getD .empty).add 1
        (if LaneMask.isFull mask before.initialMask width then 1 else 0))
    else before.fullMask.tally? other

theorem Ascending.observedAt {r : Region} (ascending : r.Ascending) (line : Int32) (mask : UInt64)
    (width : Nat) : r.ObservedAt (r.observe line mask width) line mask width where
  rest := rfl
  laneUsage other := ascending.1.tally?_add line other ..
  fullMask other := ascending.2.tally?_add line other ..

end Region

/-- Whether a call is an observation. -/
def Action.isObserve : Action → Bool
  | .observe .. => true
  | _ => false

namespace ThreadProfile

variable {p : ThreadProfile} {P : Region → Prop}

theorem forall_amendRegion {slot : Nat} {f : Region → Region} (kept : ∀ r, P r → P (f r))
    (h : ∀ r ∈ p.regions, P r) : ∀ r ∈ (p.amendRegion slot f).regions, P r := by
  intro r member
  obtain ⟨i, found⟩ := List.mem_iff_getElem?.mp member
  rw [amendRegion, List.getElem?_modify] at found
  obtain ⟨s, old, rfl⟩ := Option.map_eq_some_iff.mp found
  have before := h s (List.mem_of_getElem? old)
  split
  · exact kept s before
  · exact before

theorem forall_act (lasting : Region.Lasting P) (h : ∀ r ∈ p.regions, P r) (a : Action) :
    ∀ r ∈ (p.act a).regions, P r := by
  cases a with
  | enter kind startLine endLine mask snapshot =>
    rcases p.enter_cases kind startLine endLine mask snapshot with
      ⟨-, entered⟩ | ⟨-, slot, -, entered⟩ | ⟨-, -, entered⟩
    · rw [act, entered]
      exact h
    · rw [act, entered]
      exact forall_amendRegion (fun r here => lasting.countEntry _ (lasting.reach r endLine here)) h
    · rw [act, entered]
      intro r member
      rcases List.mem_append.mp member with old | new
      · exact h r old
      · rw [List.mem_singleton.mp new]
        exact lasting.countEntry _ (lasting.create ..)
  | suppress kind => exact h
  | leave measure exit line =>
    rw [act_leave]
    split
    · exact h
    · exact h
    · exact forall_amendRegion (fun r here => lasting.close r _ line here) h
  | observe line mask =>
    rw [act_observe]
    split
    · exact forall_amendRegion (fun r here => lasting.observe r line mask _ here) h
    · exact h
  | declareTask task => exact h

/-- A lasting property holds of all regions that calls can lead to. -/
theorem forall_run (lasting : Region.Lasting P) (h : ∀ r ∈ p.regions, P r) (as : List Action) :
    ∀ r ∈ (p.run as).regions, P r :=
  run_induction (motive := fun q => ∀ r ∈ q.regions, P r) (fun _ a h => forall_act lasting h a) h as

/-! ### The sum of all observations -/

/-- The observations of a profile: what all its regions have counted at all their lines. -/
def observations (p : ThreadProfile) : Nat := (p.regions.map (·.fullMask.total)).sum

private theorem sum_modify {α : Type} {f : α → α} {g : α → Nat} {n : Nat}
    (more : ∀ a, g (f a) = g a + n) (l : List α) {i : Nat} (below : i < l.length) :
    ((l.modify i f).map g).sum = (l.map g).sum + n := by
  induction l generalizing i with
  | nil => cases below
  | cons a l ih =>
    cases i with
    | zero => simp [more, Nat.add_right_comm]
    | succ i => simp [ih (Nat.lt_of_succ_lt_succ below), Nat.add_assoc]

theorem observations_amendRegion (p : ThreadProfile) (slot : Nat) {f : Region → Region}
    (same : ∀ r, (f r).fullMask = r.fullMask) :
    (p.amendRegion slot f).observations = p.observations := by
  rcases Nat.lt_or_ge slot p.regions.length with below | beyond
  · exact sum_modify (n := 0) (fun r => by rw [same]; rfl) p.regions below
  · rw [amendRegion, List.modify_eq_self beyond]

theorem observations_act_of_ne (p : ThreadProfile) {a : Action} (other : a.isObserve = false) :
    (p.act a).observations = p.observations := by
  cases a with
  | enter kind startLine endLine mask snapshot =>
    rcases p.enter_cases kind startLine endLine mask snapshot with
      ⟨-, entered⟩ | ⟨-, slot, -, entered⟩ | ⟨-, -, entered⟩
    · rw [act, entered]
      rfl
    · rw [act, entered]
      exact p.observations_amendRegion slot fun _ => rfl
    · rw [act, entered]
      simp [observations, Region.create, Region.countEntry, Histogram.total, Histogram.empty]
  | suppress kind => rfl
  | leave measure exit line =>
    rw [act_leave]
    split
    · rfl
    · rfl
    · exact p.observations_amendRegion _ fun _ => rfl
  | observe => cases other
  | declareTask task => rfl

theorem observations_run_of_ne {as : List Action} (others : as.all (! ·.isObserve)) :
    (p.run as).observations = p.observations := by
  induction as generalizing p with
  | nil => rfl
  | cons a as ih =>
    rw [List.all_cons, Bool.and_eq_true, Bool.not_eq_true'] at others
    rw [run_cons, ih others.2, p.observations_act_of_ne others.1]

/-- An observation counts once if the innermost entry is recorded, and else not at all. -/
theorem WellFormed.observations_observe (h : p.WellFormed) (line : Int32) (mask : UInt64) :
    (p.act (.observe line mask)).observations =
      p.observations + (p.stack.head?.bind p.frameId?).isSome.toNat := by
  rw [act_observe]
  cases hs : p.stack with
  | nil => rfl
  | cons frame rest =>
    cases frame with
    | suppressed kind => rfl
    | recorded slot base =>
      have below := h.slot_lt slot base (hs ▸ .head _)
      have named : p.frameId? (.recorded slot base) = some p.regions[slot].id := by
        rw [p.frameId?_recorded, idAt?, List.getElem?_eq_getElem below, Option.map_some]
      simp only [List.head?_cons, Option.bind_some, named]
      exact sum_modify (fun r => Histogram.total_add r.fullMask line 1 _) p.regions below

end ThreadProfile

end SimdProfile

import Mathlib.Algebra.Order.BigOperators.Group.List
import Mathlib.Algebra.Order.Group.Nat
import Mathlib.Data.List.Induction
import Mathlib.Data.List.Sort
import SimdProfile.Proofs.LaneMask
import SimdProfile.Proofs.Profile.Observations

/-!
# Tallies as sums

A histogram that took some observations, one after the other, holds for each line the sums over the
observations of that line: `Histogram.tally?_addAll`. Its lines ascend, and so its look-ups are all there
is to it (`Histogram.Ascending.ext`): two histograms with the same sums are the same, and the order of the
observations is lost.

The two histograms of a region take an observation each whenever a line is seen to run, with numbers of
their own, and nothing else that happens to the region touches them. What they hold is therefore a matter
of the sightings alone: `Region.tallies_are_sums_of_sightings`.
-/

namespace SimdProfile

namespace Histogram

variable {h g : Histogram} {line : Int32} {seen others : List (Int32 × Tally)}

/-- The histogram with some observations more, each a line and what it adds there. -/
def addAll (h : Histogram) (seen : List (Int32 × Tally)) : Histogram :=
  seen.foldl (fun h x => h.add x.1 x.2.total x.2.hits) h

/-- The sums of what some observations add at a line. -/
def sumAt (line : Int32) (seen : List (Int32 × Tally)) : Tally :=
  let here := seen.filter (·.1 = line)
  ⟨(here.map (·.2.total)).sum, (here.map (·.2.hits)).sum⟩

theorem addAll_concat (h : Histogram) (seen : List (Int32 × Tally)) (x : Int32 × Tally) :
    h.addAll (seen ++ [x]) = (h.addAll seen).add x.1 x.2.total x.2.hits := by
  simp [addAll]

theorem Ascending.addAll (ascending : h.Ascending) (seen : List (Int32 × Tally)) :
    (h.addAll seen).Ascending := by
  induction seen generalizing h with
  | nil => exact ascending
  | cons x seen ih => exact ih (ascending.add ..)

theorem ascending_empty : Histogram.empty.Ascending := .nil

theorem sumAt_concat_self (x : Int32 × Tally) (seen : List (Int32 × Tally)) :
    sumAt x.1 (seen ++ [x]) = (sumAt x.1 seen).add x.2.total x.2.hits := by
  simp [sumAt, Tally.add]

theorem sumAt_concat_of_ne {x : Int32 × Tally} (differs : line ≠ x.1) (seen : List (Int32 × Tally)) :
    sumAt line (seen ++ [x]) = sumAt line seen := by
  simp [sumAt, differs.symm]

theorem sumAt_of_not_mem (unseen : line ∉ seen.map (·.1)) : sumAt line seen = Tally.empty := by
  have nowhere : seen.filter (·.1 = line) = [] := by
    rw [List.filter_eq_nil_iff]
    intro x member same
    exact unseen (List.mem_map.mpr ⟨x, member, of_decide_eq_true same⟩)
  simp [sumAt, nowhere, Tally.empty]

/-- The tally of a line is the sum of its observations, and there is none if it was never observed. -/
theorem tally?_addAll (line : Int32) (seen : List (Int32 × Tally)) :
    (empty.addAll seen).tally? line =
      if line ∈ seen.map (·.1) then some (sumAt line seen) else none := by
  induction seen using List.reverseRecOn with
  | nil => rfl
  | append_singleton seen x ih =>
    rw [addAll_concat, (ascending_empty.addAll seen).tally?_add]
    by_cases same : line = x.1
    · subst same
      have before : ((empty.addAll seen).tally? x.1).getD .empty = sumAt x.1 seen := by
        rw [ih]
        split
        · rfl
        · next unseen => exact (sumAt_of_not_mem unseen).symm
      simp [before, sumAt_concat_self]
    · rw [if_neg same, ih, sumAt_concat_of_ne same]
      simp only [List.map_append, List.mem_append, List.map_singleton, List.mem_singleton, same,
        or_false]

/-! ### A histogram is its look-ups -/

theorem tally?_of_mem (ascending : h.Ascending) {t : Tally} (member : (line, t) ∈ h.lines) :
    h.tally? line = some t := by
  obtain ⟨ls⟩ := h
  simp only [Ascending, tally?] at ascending ⊢ member
  induction ls with
  | nil => cases member
  | cons entry rest ih =>
    obtain ⟨above, sorted⟩ := List.pairwise_cons.mp ascending
    rcases List.mem_cons.mp member with rfl | later
    · exact List.lookup_cons_self
    · have differs : line ≠ entry.1 := (Int32.ne_of_lt (above line (List.mem_map_of_mem later))).symm
      rw [List.lookup_cons, beq_false_of_ne differs]
      exact ih sorted later

theorem mem_of_tally? {t : Tally} (found : h.tally? line = some t) : (line, t) ∈ h.lines := by
  obtain ⟨before, after, lines, -⟩ := List.lookup_eq_some_iff.mp found
  rw [lines]
  exact List.mem_append_right _ (.head _)

theorem Ascending.mem_lines_iff (ascending : h.Ascending) {t : Tally} :
    (line, t) ∈ h.lines ↔ h.tally? line = some t :=
  ⟨tally?_of_mem ascending, mem_of_tally?⟩

theorem Ascending.entries (ascending : h.Ascending) : h.lines.Pairwise fun a b => a.1 < b.1 :=
  List.pairwise_map.mp ascending

/-- Two histograms that answer alike for every line are the same. -/
theorem Ascending.ext (ascending : h.Ascending) (other : g.Ascending)
    (alike : ∀ line, h.tally? line = g.tally? line) : h = g := by
  have : Std.Irrefl fun a b : Int32 × Tally => a.1 < b.1 := ⟨fun _ => Int32.lt_irrefl⟩
  have : Std.Antisymm fun a b : Int32 × Tally => a.1 < b.1 :=
    ⟨fun _ _ below above => absurd below (Int32.lt_asymm above)⟩
  have same : h.lines = g.lines := by
    apply ascending.entries.eq_of_mem_iff other.entries
    intro entry
    rw [ascending.mem_lines_iff, other.mem_lines_iff, alike]
  cases h
  cases g
  exact congrArg Histogram.mk same

theorem sumAt_perm (permuted : seen.Perm others) (line : Int32) :
    sumAt line seen = sumAt line others := by
  have here := permuted.filter (·.1 = line)
  rw [sumAt, sumAt, (here.map _).sum_nat, (here.map _).sum_nat]

/-- The order of the observations makes no difference. -/
theorem addAll_perm (permuted : seen.Perm others) : empty.addAll seen = empty.addAll others := by
  apply (ascending_empty.addAll seen).ext (ascending_empty.addAll others)
  intro line
  simp only [tally?_addAll, sumAt_perm permuted line, (permuted.map (·.1)).mem_iff]

theorem mem_lines_addAll (seen : List (Int32 × Tally)) (line : Int32) :
    line ∈ (empty.addAll seen).lines.map (·.1) ↔ line ∈ seen.map (·.1) := by
  have found (t : Tally) : (line, t) ∈ (empty.addAll seen).lines ↔
      line ∈ seen.map (·.1) ∧ sumAt line seen = t := by
    rw [(ascending_empty.addAll seen).mem_lines_iff, tally?_addAll]
    split
    · next here => simp [here]
    · next nowhere => simp [nowhere]
  constructor
  · intro listed
    obtain ⟨⟨_, t⟩, member, rfl⟩ := List.mem_map.mp listed
    exact ((found t).mp member).1
  · intro here
    exact List.mem_map.mpr ⟨_, (found _).mpr ⟨here, rfl⟩, rfl⟩

/-- Which lines a histogram has depends on which were observed, and not on what was added there. -/
theorem lines_addAll_congr (same : seen.map (·.1) = others.map (·.1)) :
    (empty.addAll seen).lines.map (·.1) = (empty.addAll others).lines.map (·.1) := by
  apply (ascending_empty.addAll seen).eq_of_mem_iff (ascending_empty.addAll others)
  intro line
  rw [mem_lines_addAll, mem_lines_addAll, same]

/-- Where no observation has more hits than its total, no sum of them has. -/
theorem hits_le_total_addAll {t : Tally} (bounded : ∀ x ∈ seen, x.2.hits ≤ x.2.total)
    (found : (empty.addAll seen).tally? line = some t) : t.hits ≤ t.total := by
  rw [tally?_addAll] at found
  split at found
  · obtain rfl := Option.some.inj found
    apply List.sum_le_sum
    intro x member
    exact bounded x (List.mem_filter.mp member).1
  · cases found

end Histogram

namespace Region

/-- Something that happens to a region. -/
inductive Event where
  | entry
  | reach (line : Int32)
  | exit (sample : Option (Sample Float)) (line : Int32)
  | observation (line : Int32) (mask : UInt64) (width : Nat)

/-- The region after one event. -/
def undergo (r : Region) : Event → Region
  | .entry => r.countEntry
  | .reach line => r.reach line
  | .exit sample line => r.close sample line
  | .observation line mask width => r.observe line mask width

/-- The region after some events, one after the other. -/
def after (r : Region) (events : List Event) : Region := events.foldl undergo r

/-- A line that was seen to run under a mask, on a target of a width. -/
structure Sighting where
  line : Int32
  mask : UInt64
  width : Nat
  deriving DecidableEq, Repr

/-- What an event shows of the lines of the region. -/
def Event.sighting? : Event → Option Sighting
  | .observation line mask width => some ⟨line, mask, width⟩
  | _ => none

namespace Sighting

/-- What a sighting adds to the lane usage of its line: the lanes there are, and those that ran. -/
def usage (s : Sighting) : Int32 × Tally := (s.line, ⟨s.width, LaneMask.count s.mask s.width⟩)

/-- What a sighting adds to the full masks of its line, in a region that was entered with `initial`. -/
def fullness (initial : UInt64) (s : Sighting) : Int32 × Tally :=
  (s.line, ⟨1, if LaneMask.isFull s.mask initial s.width then 1 else 0⟩)

theorem usage_bounded (s : Sighting) : s.usage.2.hits ≤ s.usage.2.total :=
  LaneMask.count_le_width s.mask s.width

theorem fullness_bounded (initial : UInt64) (s : Sighting) :
    (s.fullness initial).2.hits ≤ (s.fullness initial).2.total := by
  show (if _ then 1 else 0) ≤ 1
  split <;> decide

variable {f : Sighting → Int32 × Tally}

/-- What sightings add at a line is what the sightings of that line add. -/
private theorem sumAt_map (named : ∀ s, (f s).1 = s.line) (line : Int32) (seen : List Sighting) :
    Histogram.sumAt line (seen.map f) =
      ⟨((seen.filter (·.line = line)).map fun s => (f s).2.total).sum,
        ((seen.filter (·.line = line)).map fun s => (f s).2.hits).sum⟩ := by
  have here : (seen.map f).filter (·.1 = line) = (seen.filter (·.line = line)).map f := by
    rw [List.filter_map]
    apply congrArg (List.map f)
    apply List.filter_congr
    intro s _
    simp [named]
  rw [Histogram.sumAt, here, List.map_map, List.map_map]
  rfl

private theorem sum_indicator (p : Sighting → Bool) (seen : List Sighting) :
    (seen.map fun s => if p s then 1 else 0).sum = seen.countP p := by
  induction seen with
  | nil => rfl
  | cons s seen ih =>
    rw [List.map_cons, List.sum_cons, ih, List.countP_cons, Nat.add_comm]

private theorem mem_map_iff (named : ∀ s, (f s).1 = s.line) (line : Int32) (seen : List Sighting) :
    line ∈ (seen.map f).map (·.1) ↔ seen.filter (·.line = line) ≠ [] := by
  simp [List.filter_eq_nil_iff, named]

/-- The lane usage that sightings leave at a line. -/
def usageAt (line : Int32) (seen : List Sighting) : Option Tally :=
  let here := seen.filter (·.line = line)
  if here = [] then none
  else some ⟨(here.map (·.width)).sum, (here.map fun s => LaneMask.count s.mask s.width).sum⟩

/-- The tally of full masks that sightings leave at a line of a region that was entered with `initial`. -/
def fullnessAt (initial : UInt64) (line : Int32) (seen : List Sighting) : Option Tally :=
  let here := seen.filter (·.line = line)
  if here = [] then none
  else some ⟨here.length, here.countP fun s => LaneMask.isFull s.mask initial s.width⟩

theorem tally?_usage (line : Int32) (seen : List Sighting) :
    (Histogram.empty.addAll (seen.map usage)).tally? line = usageAt line seen := by
  have named (s : Sighting) : (usage s).1 = s.line := rfl
  simp only [Histogram.tally?_addAll, mem_map_iff named, sumAt_map named, usageAt, ite_not]
  rfl

theorem tally?_fullness (initial : UInt64) (line : Int32) (seen : List Sighting) :
    (Histogram.empty.addAll (seen.map (fullness initial))).tally? line =
      fullnessAt initial line seen := by
  have named (s : Sighting) : (fullness initial s).1 = s.line := rfl
  simp only [Histogram.tally?_addAll, mem_map_iff named, sumAt_map named, fullnessAt, ite_not]
  simp only [fullness, List.map_const', List.sum_replicate_nat, Nat.mul_one, sum_indicator]

end Sighting

variable {r : Region}

theorem initialMask_after (r : Region) (events : List Event) :
    (r.after events).initialMask = r.initialMask := by
  induction events generalizing r with
  | nil => rfl
  | cons e events ih =>
    have kept : (r.undergo e).initialMask = r.initialMask := by cases e <;> rfl
    exact (ih (r.undergo e)).trans kept

/-- The sightings of a row of events. -/
def sightings (events : List Event) : List Sighting := events.filterMap Event.sighting?

/-- One event touches the two histograms only if it is a sighting, and then adds it to both. -/
theorem undergo_tallies (r : Region) (e : Event) :
    (r.undergo e).laneUsage = r.laneUsage.addAll (e.sighting?.toList.map Sighting.usage) ∧
    (r.undergo e).fullMask =
      r.fullMask.addAll (e.sighting?.toList.map (Sighting.fullness r.initialMask)) := by
  cases e with
  | entry => exact ⟨rfl, rfl⟩
  | reach line => exact ⟨rfl, rfl⟩
  | exit sample line => exact ⟨rfl, rfl⟩
  | observation line mask width => exact ⟨rfl, rfl⟩

/-- After a row of events the histograms are what they were, with the sightings of the row added. -/
theorem after_tallies (r : Region) (events : List Event) :
    (r.after events).laneUsage = r.laneUsage.addAll ((sightings events).map Sighting.usage) ∧
    (r.after events).fullMask =
      r.fullMask.addAll ((sightings events).map (Sighting.fullness r.initialMask)) := by
  induction events using List.reverseRecOn with
  | nil => exact ⟨rfl, rfl⟩
  | append_singleton events e ih =>
    obtain ⟨usage, fullness⟩ := undergo_tallies (r.after events) e
    have last : r.after (events ++ [e]) = (r.after events).undergo e := by simp [after]
    have shown : sightings (events ++ [e]) = sightings events ++ e.sighting?.toList := by
      cases e <;> simp [sightings, Event.sighting?]
    rw [last, usage, fullness, ih.1, ih.2, initialMask_after, shown]
    simp [Histogram.addAll]

/-- A record lists the tallies of a histogram: by ascending line, each line that has one once, with the
share of its hits in percent, which is zero if nothing was counted. -/
def Lists (shares : List LinePercent) (h : Histogram) : Prop :=
  (shares.map (·.line)).Pairwise (· < ·) ∧
  ∀ share, share ∈ shares ↔ ∃ t, h.tally? share.line = some t ∧
    (t.total = 0 → share.percent = .ofFloat 0.0) ∧
    (t.total ≠ 0 → share.percent = .ofFloat (Float.ofNat t.hits / Float.ofNat t.total * 100.0))

theorem eq_percent_iff {t : Tally} {percent : Binary64} : percent = .ofFloat t.percent ↔
    (t.total = 0 → percent = .ofFloat 0.0) ∧
    (t.total ≠ 0 → percent = .ofFloat (Float.ofNat t.hits / Float.ofNat t.total * 100.0)) := by
  by_cases nothing : t.total = 0
  · simp [Tally.percent_of_total_eq_zero nothing, nothing]
  · simp [Tally.percent_of_total_ne_zero nothing, nothing]

theorem lists_percents {h : Histogram} (ascending : h.Ascending) : Lists (percents h) h := by
  constructor
  · simpa [percents, Function.comp_def, Histogram.Ascending] using ascending
  · intro share
    constructor
    · intro listed
      obtain ⟨⟨line, t⟩, member, rfl⟩ := List.mem_map.mp listed
      exact ⟨t, ascending.mem_lines_iff.mp member, eq_percent_iff.mp rfl⟩
    · rintro ⟨t, found, shown⟩
      refine List.mem_map.mpr ⟨(share.line, t), ascending.mem_lines_iff.mpr found, ?_⟩
      rw [← eq_percent_iff.mpr shown]

/-- **The two histograms of a region are sums over its sightings, whatever their order.** -/
theorem tallies_are_sums_of_sightings (id : RegionId) (key : RegionKey) (endLine : Int32)
    (initial : UInt64) (events : List Event) :
    let r := (create id key endLine initial).after events
    let seen := sightings events
    (∀ line, r.laneUsage.tally? line = Sighting.usageAt line seen) ∧
    (∀ line, r.fullMask.tally? line = Sighting.fullnessAt initial line seen) ∧
    r.laneUsage.lines.map (·.1) = r.fullMask.lines.map (·.1) ∧
    (∀ line t, r.laneUsage.tally? line = some t ∨ r.fullMask.tally? line = some t →
      t.hits ≤ t.total) ∧
    (∀ id' key' endLine' others, (sightings others).Perm seen →
      let r' := (create id' key' endLine' initial).after others
      r'.laneUsage = r.laneUsage ∧ r'.fullMask = r.fullMask) ∧
    Lists r.toRecord.laneUsage r.laneUsage ∧ Lists r.toRecord.fullMask r.fullMask := by
  intro r seen
  obtain ⟨usage, fullness⟩ : r.laneUsage = Histogram.empty.addAll (seen.map Sighting.usage) ∧
      r.fullMask = Histogram.empty.addAll (seen.map (Sighting.fullness initial)) :=
    after_tallies (create id key endLine initial) events
  have ascending : r.Ascending := by
    constructor
    · rw [usage]
      exact Histogram.ascending_empty.addAll _
    · rw [fullness]
      exact Histogram.ascending_empty.addAll _
  refine ⟨?usageSums, ?fullnessSums, ?sameLines, ?bounded, ?permuted, lists_percents ascending.1,
    lists_percents ascending.2⟩
  case usageSums =>
    intro line
    rw [usage, Sighting.tally?_usage]
  case fullnessSums =>
    intro line
    rw [fullness, Sighting.tally?_fullness]
  case sameLines =>
    rw [usage, fullness]
    apply Histogram.lines_addAll_congr
    simp [Sighting.usage, Sighting.fullness]
  case bounded =>
    rintro line t (found | found)
    · rw [usage] at found
      exact Histogram.hits_le_total_addAll (by simp [Sighting.usage_bounded]) found
    · rw [fullness] at found
      exact Histogram.hits_le_total_addAll (by simp [Sighting.fullness_bounded]) found
  case permuted =>
    intro id' key' endLine' others permuted r'
    have other := after_tallies (create id' key' endLine' initial) others
    rw [usage, fullness]
    exact ⟨other.1.trans (Histogram.addAll_perm (permuted.map _)),
      other.2.trans (Histogram.addAll_perm (permuted.map _))⟩

/-- A loop entered with four lanes, at a line that ran with all of eight lanes, with two of four and
with all lanes of a target wider than a mask, in two orders: lanes that join count as available. -/
theorem tallies_of_loop_in_two_orders :
    let loop := create 0 ⟨3, .loop⟩ 9 0x0f
    let r := loop.after [.entry, .observation 5 0xff 8, .exit none 9, .observation 3 1 0, .entry,
      .observation 5 0xf3 4, .observation 5 0xffffffffffffffff 70]
    let r' := loop.after [.observation 5 0xffffffffffffffff 70, .observation 5 0xf3 4,
      .observation 3 1 0, .entry, .observation 5 0xff 8]
    r.laneUsage.tally? 5 = some ⟨82, 74⟩ ∧ r.fullMask.tally? 5 = some ⟨3, 2⟩ ∧
    r.laneUsage.tally? 3 = some ⟨0, 0⟩ ∧ r.laneUsage.tally? 9 = none ∧
    r'.laneUsage = r.laneUsage ∧ r'.fullMask = r.fullMask := by
  intro loop r r'
  obtain ⟨usage, fullness, -, -, permuted, -⟩ := tallies_are_sums_of_sightings 0 ⟨3, .loop⟩ 9 0x0f
    [.entry, .observation 5 0xff 8, .exit none 9, .observation 3 1 0, .entry,
      .observation 5 0xf3 4, .observation 5 0xffffffffffffffff 70]
  refine ⟨(usage 5).trans (by decide +kernel), (fullness 5).trans (by decide +kernel),
    (usage 3).trans (by decide +kernel), (usage 9).trans (by decide +kernel), ?_⟩
  exact permuted 0 ⟨3, .loop⟩ 9 _ (by decide)

end Region

end SimdProfile

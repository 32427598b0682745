import Mathlib.Algebra.Group.Nat.Defs
import Mathlib.Tactic.Ring
import SimdProfile.LaneMask
import SimdProfile.Text.Digits

/-!
# Counting lanes

A count of lanes is the number of bits that are set below the width, so it is never more than the width,
also where that is zero or wider than a mask. The digits of a mask are a binary numeral of its lanes with
as many ones, and whether a mask is full is a matter of counts alone. Nothing depends on the bits from the
width on: masks that agree below it cannot be told apart.
-/

namespace SimdProfile.LaneMask

/-- The mask of all lanes as a number: its lowest bits are ones. -/
theorem toNat_ofWidth (width : Nat) : (ofWidth width).toNat = 2 ^ min width maxLanes - 1 := by
  unfold ofWidth
  split
  · next narrow =>
    have small : width < 64 := narrow
    have below : 2 ^ width < 2 ^ 64 := Nat.pow_lt_pow_right (by decide) small
    have amount : (UInt64.ofNat width).toNat = width :=
      UInt64.toNat_ofNat_of_lt (Nat.lt_trans small (by decide))
    have power : ((1 : UInt64) <<< UInt64.ofNat width).toNat = 2 ^ width := by
      rw [UInt64.toNat_shiftLeft, amount, Nat.mod_eq_of_lt small, UInt64.toNat_one,
        Nat.shiftLeft_eq, Nat.one_mul, Nat.mod_eq_of_lt below]
    have positive : (1 : UInt64) ≤ 1 <<< UInt64.ofNat width := by
      rw [UInt64.le_iff_toNat_le, power]
      exact Nat.two_pow_pos width
    rw [UInt64.toNat_sub_of_le _ _ positive, power, Nat.min_eq_left (Nat.le_of_lt narrow)]
    rfl
  · next wide =>
    rw [Nat.min_eq_right (Nat.not_lt.mp wide)]
    rfl

theorem getLsbD_ofWidth (width lane : Nat) :
    (ofWidth width).toBitVec.getLsbD lane = decide (lane < min width maxLanes) := by
  rw [← BitVec.testBit_toNat, UInt64.toNat_toBitVec, toNat_ofWidth, Nat.testBit_two_pow_sub_one]

private theorem cpopNatRec_eq_countP {w : Nat} (x : BitVec w) (n : Nat) :
    x.cpopNatRec n 0 = (List.range n).countP x.getLsbD := by
  induction n with
  | zero => rfl
  | succ n ih =>
    rw [BitVec.cpopNatRec_succ, BitVec.cpopNatRec_eq, ih, List.range_succ, List.countP_append,
      List.countP_singleton, Nat.zero_add]
    cases x.getLsbD n <;> rfl

private theorem toNat_cpop (x : BitVec 64) : x.cpop.toNat = (List.range 64).countP x.getLsbD := by
  have few : (List.range 64).countP x.getLsbD ≤ 64 := by
    simpa using List.countP_le_length (p := x.getLsbD) (l := List.range 64)
  rw [BitVec.cpop, cpopNatRec_eq_countP, BitVec.toNat_ofNat, Nat.mod_eq_of_lt]
  omega

/-- To look only at the lanes below a width is to count over fewer lanes. -/
private theorem countP_range_and (p : Nat → Bool) {m n : Nat} (fewer : m ≤ n) :
    ((List.range n).countP fun i => p i && decide (i < m)) = (List.range m).countP p := by
  obtain ⟨k, rfl⟩ := Nat.exists_eq_add_of_le fewer
  have inside : ((List.range m).countP fun i => p i && decide (i < m)) = (List.range m).countP p := by
    apply List.countP_congr
    intro i member
    simp [List.mem_range.mp member]
  have outside : (((List.range k).map (m + ·)).countP fun i => p i && decide (i < m)) = 0 := by
    rw [List.countP_eq_zero]
    intro i member
    obtain ⟨j, -, rfl⟩ := List.mem_map.mp member
    simp
  rw [List.range_add, List.countP_append, inside, outside, Nat.add_zero]

/-- The number of lanes that run is that of the bits set below the width. -/
theorem count_eq (mask : UInt64) (width : Nat) :
    count mask width = (List.range (min width maxLanes)).countP mask.toBitVec.getLsbD := by
  have bit (lane : Nat) : (mask &&& ofWidth width).toBitVec.getLsbD lane =
      (mask.toBitVec.getLsbD lane && decide (lane < min width maxLanes)) := by
    rw [UInt64.toBitVec_and, BitVec.getLsbD_and, getLsbD_ofWidth]
  rw [count, toNat_cpop, funext bit]
  exact countP_range_and mask.toBitVec.getLsbD (Nat.min_le_right width maxLanes)

theorem count_le_width (mask : UInt64) (width : Nat) : count mask width ≤ width := by
  have most : count mask width ≤ min width maxLanes := by
    rw [count_eq]
    simpa using List.countP_le_length (p := mask.toBitVec.getLsbD)
      (l := List.range (min width maxLanes))
  exact Nat.le_trans most (Nat.min_le_left width maxLanes)

/-! ### More lanes, and lanes that do not matter -/

/-- Neither a wider target nor more running lanes make a count smaller. -/
theorem count_le_count {width wider : Nat} {mask more : UInt64} (wide : width ≤ wider)
    (joined : ∀ lane < width, mask.toBitVec.getLsbD lane → more.toBitVec.getLsbD lane) :
    count mask width ≤ count more wider := by
  have lanes : min width maxLanes ≤ min wider maxLanes := by omega
  rw [count_eq, count_eq]
  calc (List.range (min width maxLanes)).countP mask.toBitVec.getLsbD
      ≤ (List.range (min width maxLanes)).countP more.toBitVec.getLsbD := by
        apply List.countP_mono_left
        intro lane member runs
        have below : lane < min width maxLanes := List.mem_range.mp member
        exact joined lane (by omega) runs
    _ ≤ (List.range (min wider maxLanes)).countP more.toBitVec.getLsbD :=
        (List.range_sublist.mpr lanes).countP_le

/-- Two masks have the same lanes below a width. -/
def Agree (width : Nat) (mask other : UInt64) : Prop :=
  ∀ lane < width, mask.toBitVec.getLsbD lane = other.toBitVec.getLsbD lane

section Agree

variable {width : Nat} {mask other : UInt64}

theorem Agree.count_eq (same : Agree width mask other) : count mask width = count other width := by
  apply Nat.le_antisymm
  · exact count_le_count (Nat.le_refl width) fun lane below runs => same lane below ▸ runs
  · exact count_le_count (Nat.le_refl width) fun lane below runs => (same lane below).symm ▸ runs

theorem Agree.digits_eq (same : Agree width mask other) : digits mask width = digits other width := by
  unfold digits
  apply List.map_congr_left
  intro lane member
  have below : lane < min width maxLanes := List.mem_range.mp (List.mem_reverse.mp member)
  rw [same lane (by omega)]

end Agree

/-! ### Digits -/

theorem count_one_digits (mask : UInt64) (width : Nat) :
    (digits mask width).count '1' = count mask width := by
  have one (lane : Nat) : ((if mask.toBitVec.getLsbD lane then '1' else '0') == '1') =
      mask.toBitVec.getLsbD lane := by
    cases mask.toBitVec.getLsbD lane <;> rfl
  rw [digits, List.count, List.countP_map, List.countP_reverse, count_eq]
  exact congrArg (List.countP · _) (funext one)

/-- The digits of the lowest `n` lanes, the highest first, read onto the value of those before them. -/
private theorem readDigits_lanes (mask : UInt64) (limit n acc : Nat)
    (fits : acc * 2 ^ n + mask.toNat % 2 ^ n ≤ limit) :
    Text.readDigits 2 limit ((List.range n).reverse.map fun lane =>
      if mask.toBitVec.getLsbD lane then '1' else '0') acc = .ok (acc * 2 ^ n + mask.toNat % 2 ^ n) := by
  induction n generalizing acc with
  | zero => simp [Text.readDigits, Nat.mod_one]
  | succ n ih =>
    have digit : Text.digitValue? 2 (if mask.toBitVec.getLsbD n then '1' else '0') =
        some (mask.toNat.testBit n).toNat := by
      rw [← BitVec.testBit_toNat, UInt64.toNat_toBitVec]
      cases mask.toNat.testBit n <;> rfl
    have value : acc * 2 ^ (n + 1) + mask.toNat % 2 ^ (n + 1) =
        (acc * 2 + (mask.toNat.testBit n).toNat) * 2 ^ n + mask.toNat % 2 ^ n := by
      rw [Nat.mod_pow_succ, Nat.toNat_testBit]
      ring
    rw [value] at fits ⊢
    have first : acc * 2 + (mask.toNat.testBit n).toNat ≤ limit := by
      have := Nat.le_mul_of_pos_right (acc * 2 + (mask.toNat.testBit n).toNat) (Nat.two_pow_pos n)
      omega
    rw [List.range_succ, List.reverse_concat, List.map_cons, Text.readDigits, digit]
    dsimp only
    rw [if_pos first]
    exact ih _ fits

/-- The digits of a mask are a binary numeral of the lanes that the target has. -/
theorem readDigits_digits (mask : UInt64) (width : Nat) :
    Text.readDigits 2 0xffffffffffffffff (digits mask width) 0 = .ok (mask &&& ofWidth width).toNat := by
  have lanes : (mask &&& ofWidth width).toNat = mask.toNat % 2 ^ min width maxLanes := by
    rw [UInt64.toNat_and, toNat_ofWidth, Nat.and_two_pow_sub_one_eq_mod]
  have small : (mask &&& ofWidth width).toNat < 2 ^ 64 := UInt64.toNat_lt _
  rw [lanes] at small ⊢
  have read := readDigits_lanes mask 0xffffffffffffffff (min width maxLanes) 0 (by omega)
  rw [Nat.zero_mul, Nat.zero_add] at read
  exact read

/-! ### Full masks -/

theorem isFull_iff (mask initial : UInt64) (width : Nat) :
    isFull mask initial width ↔ count initial width ≤ count mask width := by
  rw [isFull, available, beq_iff_eq]
  omega

/-- **The digits of a mask, its count of lanes and whether it is full say the same**, for every width, and
only of the lanes below it. -/
theorem digits_and_counts_agree (mask initial : UInt64) (width : Nat) :
    ((digits mask width).length = min width maxLanes ∧
      Text.readDigits 2 0xffffffffffffffff (digits mask width) 0 = .ok (mask &&& ofWidth width).toNat ∧
      (digits mask width).count '1' = count mask width) ∧
    count mask width = (List.range (min width maxLanes)).countP mask.toBitVec.getLsbD ∧
    (∀ wider more, width ≤ wider →
      (∀ lane < width, mask.toBitVec.getLsbD lane → more.toBitVec.getLsbD lane) →
      count mask width ≤ count more wider) ∧
    (∀ other otherInitial, Agree width mask other → Agree width initial otherInitial →
      digits mask width = digits other width ∧ count mask width = count other width ∧
      (∀ used, available initial used width = available otherInitial used width) ∧
      isFull mask initial width = isFull other otherInitial width) ∧
    (isFull mask initial width ↔ count initial width ≤ count mask width) := by
  refine ⟨⟨length_digits mask width, readDigits_digits mask width, count_one_digits mask width⟩,
    count_eq mask width, fun wider more => count_le_count, ?_, isFull_iff mask initial width⟩
  intro other otherInitial same sameInitial
  have full : isFull mask initial width = isFull other otherInitial width := by
    rw [Bool.eq_iff_iff, isFull_iff, isFull_iff, same.count_eq, sameInitial.count_eq]
  refine ⟨same.digits_eq, same.count_eq, ?_, full⟩
  intro used
  rw [available, available, sameInitial.count_eq]

/-- A mask whose highest bits do not matter at four lanes, with more lanes on a target wider than a mask,
and full although it was entered with others. -/
theorem digits_and_counts_of_four_lanes :
    let mask : UInt64 := 0x80000000000000f5
    let more : UInt64 := 0xff
    let other : UInt64 := 0x05
    (Text.readDigits 2 0xffffffffffffffff (digits mask 4) 0 = .ok 5 ∧ count mask 4 = 2) ∧
    (4 ≤ 70 ∧ (∀ lane < 4, mask.toBitVec.getLsbD lane → more.toBitVec.getLsbD lane) ∧
      count mask 4 ≤ count more 70) ∧
    (Agree 4 mask other ∧ Agree 4 0xfa 0x0a ∧ digits mask 4 = digits other 4 ∧
      isFull mask 0xfa 4 = isFull other 0x0a 4) ∧ isFull mask 0xfa 4 := by
  intro mask more other
  obtain ⟨⟨-, read, -⟩, -, grows, apart, full⟩ := digits_and_counts_agree mask 0xfa 4
  have joined : ∀ lane < 4, mask.toBitVec.getLsbD lane → more.toBitVec.getLsbD lane := by decide
  have same : Agree 4 mask other := by
    unfold Agree
    decide
  have sameInitial : Agree 4 0xfa 0x0a := by
    unfold Agree
    decide
  have five : (mask &&& ofWidth 4).toNat = 5 := by decide
  obtain ⟨written, -, -, alike⟩ := apart other 0x0a same sameInitial
  exact ⟨⟨five ▸ read, by decide⟩, ⟨by decide, joined, grows 70 more (by decide) joined⟩,
    ⟨same, sameInitial, written, alike⟩, full.mpr (by decide)⟩

end SimdProfile.LaneMask

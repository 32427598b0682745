import SimdProfile.Flags
import SimdProfile.Proofs.Text.Blank
import SimdProfile.Proofs.Text.Digits

/-!
# Flags as text

A set of flags is read back from its text, whatever its bits are (`ofText?_text`). The text holds the
declared flags of the set by name and what is left over as a number. Between the bars stand these parts,
since none has a bar or a blank in it, and together they have all bits of the set: a declared flag is a
single bit, so it is in the set or shares nothing with it.
-/

namespace SimdProfile.Flags

/-! ### Parts of the text -/

/-- Neither a bar nor a blank. -/
def isPlain (c : Char) : Bool := c != '|' && !Text.isBlank c

/-- A text that bars and blanks can stand around. -/
structure Plain (part : List Char) : Prop where
  nonempty : part ≠ []
  visible : ∀ c ∈ part, isPlain c

theorem Plain.not_isBlank {part : List Char} (plain : Plain part) : ∀ c ∈ part, ¬ Text.isBlank c := by
  intro c member
  have visible := plain.visible c member
  simp only [isPlain, Bool.and_eq_true, Bool.not_eq_true'] at visible
  exact ne_true_of_eq_false visible.2

theorem Plain.trim_eq {part : List Char} (plain : Plain part) : Text.trim part = part := by
  apply Text.trim_of_unpadded
  constructor
  · intro c first
    exact plain.not_isBlank c (List.mem_of_head? first)
  · intro c last
    exact plain.not_isBlank c (List.mem_of_getLast? last)

theorem Plain.bar_not_mem {part : List Char} (plain : Plain part) : '|' ∉ part := by
  intro member
  cases plain.visible '|' member

theorem plain_hexDigits (n : Nat) : Plain (Text.hexDigits n) := by
  refine ⟨List.cons_ne_nil _ _, ?_⟩
  have digit : ∀ d < 16, isPlain d.digitChar ∧ isPlain d.digitChar.toUpper := by decide
  rw [Text.hexDigits]
  refine List.forall_mem_cons.mpr ⟨rfl, List.forall_mem_cons.mpr ⟨rfl, ?_⟩⟩
  intro c member
  obtain ⟨d, few, lower | upper⟩ := (Text.digits_natDigits (by decide) n).isDigit_of_mem c member
  · rw [lower]
    exact (digit d few).1
  · rw [upper]
    exact (digit d few).2

theorem plain_parts (f : Flags) : ∀ part ∈ f.parts, Plain part := by
  have names : ∀ m ∈ declared, m.1.toList ≠ [] ∧ m.1.toList.all isPlain := by decide
  intro part member
  rcases List.mem_append.mp member with named | left
  · obtain ⟨m, chosen, rfl⟩ := List.mem_map.mp named
    obtain ⟨nonempty, visible⟩ := names m (List.mem_filter.mp chosen |>.1)
    exact ⟨nonempty, List.all_eq_true.mp visible⟩
  · split at left
    · cases left
    · rw [List.mem_singleton.mp left]
      exact plain_hexDigits _

theorem trim_blank_cons (cs : List Char) : Text.trim (' ' :: cs) = Text.trim cs := by
  have blank : ∀ c ∈ [' '], Text.isBlank c := List.forall_mem_singleton.mpr rfl
  have padded : Text.trim ([' '] ++ cs ++ []) = Text.trim cs := Text.trim_append cs blank (by simp)
  rwa [List.append_nil] at padded

theorem trim_concat_blank (cs : List Char) : Text.trim (cs ++ [' ']) = Text.trim cs := by
  have blank : ∀ c ∈ [' '], Text.isBlank c := List.forall_mem_singleton.mpr rfl
  have padded : Text.trim ([] ++ cs ++ [' ']) = Text.trim cs := Text.trim_append cs (by simp) blank
  rwa [List.nil_append] at padded

/-- What stands between the bars are the parts, with a blank next to each bar. -/
theorem map_trim_splitOn {parts : List (List Char)} (plain : ∀ part ∈ parts, Plain part)
    (some : parts ≠ []) :
    ((List.intercalate " | ".toList parts).splitOn '|').map Text.trim = parts := by
  induction parts with
  | nil => exact absurd rfl some
  | cons part parts ih =>
    have first := plain part List.mem_cons_self
    cases parts with
    | nil =>
      rw [List.intercalate_singleton, List.splitOn_eq_singleton first.bar_not_mem, List.map_singleton,
        first.trim_eq]
    | cons next parts =>
      have others := ih (fun p member => plain p (List.mem_cons_of_mem part member)) (List.cons_ne_nil _ _)
      let rest := List.intercalate " | ".toList (next :: parts)
      have whole : List.intercalate " | ".toList (part :: next :: parts) =
          (part ++ [' ']) ++ '|' :: ' ' :: rest := by
        simp [List.intercalate_cons_cons, rest]
      have own : '|' ∉ part ++ [' '] := by
        simp [first.bar_not_mem]
      have behind : ((' ' :: rest).splitOn '|').map Text.trim = (rest.splitOn '|').map Text.trim := by
        rw [List.splitOn_cons_eq_if_modifyHead, if_neg (by decide)]
        cases rest.splitOn '|' with
        | nil => rfl
        | cons head tail =>
          rw [List.modifyHead_cons, List.map_cons, List.map_cons, trim_blank_cons]
      rw [whole, List.splitOn_append_cons_self, List.splitOn_eq_singleton own, List.map_append,
        List.map_singleton, trim_concat_blank, first.trim_eq, behind, others]
      rfl

/-! ### What the parts stand for -/

/-- A flag with a bit of its own. -/
def IsSingle (m : Flags) : Prop := ∃ i, m.bits.toBitVec = BitVec.twoPow 32 i

/-- The bits of some sets together. -/
def joint (ms : List Flags) : UInt32 := (ms.map Flags.bits).foldr (· ||| ·) 0

/-- A single bit is in a set or has nothing to do with it. -/
theorem and_single (f : Flags) {m : Flags} (single : m.IsSingle) :
    f.bits &&& m.bits = if f.contains m then m.bits else 0 := by
  obtain ⟨i, power⟩ := single
  have shared : (f.bits &&& m.bits).toBitVec =
      if f.bits.toBitVec.getLsbD i then m.bits.toBitVec else 0 := by
    rw [UInt32.toBitVec_and, power]
    exact BitVec.and_twoPow _ i
  split
  · next inside => exact beq_iff_eq.mp inside
  · next outside =>
    apply UInt32.eq_of_toBitVec_eq
    rw [shared]
    split
    · next bit =>
      rw [if_pos bit] at shared
      exact absurd (beq_iff_eq.mpr (UInt32.eq_of_toBitVec_eq shared)) outside
    · rfl

theorem and_or_distrib (a b c : UInt32) : a &&& (b ||| c) = (a &&& b) ||| (a &&& c) :=
  UInt32.eq_of_toBitVec_eq BitVec.and_or_distrib_left

/-- The single flags that are in a set are together its bits among theirs. -/
theorem joint_filter (f : Flags) {ms : List Flags} (single : ∀ m ∈ ms, m.IsSingle) :
    joint (ms.filter f.contains) = f.bits &&& joint ms := by
  induction ms with
  | nil => exact UInt32.and_zero.symm
  | cons m ms ih =>
    have others := ih fun m' member => single m' (List.mem_cons_of_mem m member)
    have own := f.and_single (single m List.mem_cons_self)
    have split : f.bits &&& joint (m :: ms) = (f.bits &&& m.bits) ||| (f.bits &&& joint ms) :=
      and_or_distrib f.bits m.bits (joint ms)
    rw [split, own, ← others]
    by_cases inside : f.contains m = true
    · rw [List.filter_cons_of_pos inside, if_pos inside]
      rfl
    · rw [List.filter_cons_of_neg inside, if_neg inside, UInt32.zero_or]

theorem unionAll?_map_some (ms : List Flags) : unionAll? (ms.map some) = some ⟨joint ms⟩ := by
  have onto (acc : Flags) : (ms.map some).foldlM (fun acc f => acc.union <$> f) acc =
      some ⟨acc.bits ||| joint ms⟩ := by
    induction ms generalizing acc with
    | nil => exact congrArg (fun bits => some (mk bits)) UInt32.or_zero.symm
    | cons m ms ih =>
      rw [List.map_cons, List.foldlM_cons]
      refine (ih (acc.union m)).trans ?_
      exact congrArg (fun bits => some (mk bits)) (UInt32.or_assoc acc.bits m.bits (joint ms))
  rw [unionAll?, onto]
  exact congrArg (fun bits => some (mk bits)) UInt32.zero_or

/-- The sets that the parts of the text of a set stand for. -/
def pieces (f : Flags) : List Flags :=
  (declared.map (·.2)).filter f.contains ++ if f.undeclared == 0 then [] else [⟨f.undeclared⟩]

theorem ofPart?_hexDigits (word : UInt32) : ofPart? (Text.hexDigits word.toNat) = some ⟨word⟩ := by
  have read : Text.readWord 16 (Text.natDigits 16 word.toNat) = .ok word :=
    (Text.readWord_eq_ok_iff (by decide) (by decide)).mpr (.unsigned (Text.digits_natDigits (by decide) _))
  rw [Text.hexDigits, ofPart?, read]
  rfl

theorem map_ofPart?_parts (f : Flags) : f.parts.map ofPart? = f.pieces.map some := by
  have names : ∀ m ∈ declared, ofPart? m.1.toList = some m.2 := by decide
  have named : ((declared.filter (f.contains ·.2)).map (·.1.toList)).map ofPart? =
      ((declared.map (·.2)).filter f.contains).map some := by
    rw [List.filter_map, List.map_map, List.map_map]
    apply List.map_congr_left
    intro m member
    exact names m (List.mem_filter.mp member).1
  rw [parts, pieces, List.map_append, List.map_append, named]
  congr 1
  split
  · rfl
  · exact congrArg ([·]) (ofPart?_hexDigits f.undeclared)

theorem joint_append (ms others : List Flags) : joint (ms ++ others) = joint ms ||| joint others := by
  induction ms with
  | nil => exact UInt32.zero_or.symm
  | cons m ms ih =>
    calc m.bits ||| joint (ms ++ others) = m.bits ||| (joint ms ||| joint others) := by rw [ih]
      _ = m.bits ||| joint ms ||| joint others := (UInt32.or_assoc ..).symm

/-- The parts have all bits of the set. -/
theorem joint_pieces (f : Flags) : joint f.pieces = f.bits := by
  have single : ∀ m ∈ declared.map (·.2), m.IsSingle := by
    have powers : ∀ m ∈ declared.map (·.2), ∃ i < 32, m.bits.toBitVec = BitVec.twoPow 32 i := by decide
    intro m member
    obtain ⟨i, -, power⟩ := powers m member
    exact ⟨i, power⟩
  have left : joint (if f.undeclared == 0 then [] else [⟨f.undeclared⟩]) = f.undeclared := by
    split
    · next none => exact (beq_iff_eq.mp none).symm
    · exact UInt32.or_zero
  calc joint f.pieces
      = (f.bits &&& joint (declared.map (·.2))) ||| f.undeclared := by
        rw [pieces, joint_append, f.joint_filter single, left]
    _ = (f.bits &&& all.bits) ||| (f.bits &&& ~~~ all.bits) := rfl
    _ = f.bits := by rw [← and_or_distrib, UInt32.or_not_self, UInt32.and_neg_one]

/-- A set is empty if its text has no parts. -/
theorem eq_empty_of_parts {f : Flags} (none : f.parts = []) : f = ⟨0⟩ := by
  have pieces : f.pieces = [] := by
    have same := f.map_ofPart?_parts
    rw [none] at same
    exact List.map_eq_nil_iff.mp same.symm
  have bits := f.joint_pieces
  rw [pieces] at bits
  exact congrArg mk bits.symm

/-- **A set of flags is read back from its text**, undeclared bits included. -/
theorem ofText?_text (f : Flags) : ofText? f.text = some f := by
  by_cases none : f.parts = []
  · rw [text, none, eq_empty_of_parts none]
    rfl
  · obtain ⟨part, parts, split⟩ := List.exists_cons_of_ne_nil none
    have first : Plain part := f.plain_parts part (split ▸ List.mem_cons_self)
    obtain ⟨c, member⟩ := List.exists_mem_of_ne_nil part first.nonempty
    have shown : c ∈ List.intercalate " | ".toList f.parts := by
      rw [split]
      cases parts with
      | nil => rwa [List.intercalate_singleton]
      | cons next parts =>
        rw [List.intercalate_cons_cons, List.append_assoc]
        exact List.mem_append_left _ member
    have visible : (Text.trim f.text.toList).isEmpty = false := by
      rw [List.isEmpty_eq_false_iff, text, String.toList_ofList]
      exact Text.trim_ne_nil shown (first.not_isBlank c member)
    have separate : (f.text.toList.splitOn '|').map Text.trim = f.parts := by
      rw [text, String.toList_ofList]
      exact map_trim_splitOn f.plain_parts none
    have read : (f.text.toList.splitOn '|').map (fun part => ofPart? (Text.trim part)) =
        f.pieces.map some := by
      rw [← map_ofPart?_parts, ← separate, List.map_map]
      rfl
    rw [ofText?, visible, if_neg Bool.false_ne_true, read, unionAll?_map_some, joint_pieces]

end SimdProfile.Flags

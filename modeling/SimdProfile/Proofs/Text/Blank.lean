import Mathlib.Data.List.TakeWhile
import SimdProfile.Text.Blank

/-!
# Trimming

A text is trimmed to the one part of it that has no blank at either end and only blanks around it
(`trim_eq_iff`).
-/

namespace SimdProfile.Text

/-- No blank stands at either end. -/
def Unpadded (core : List Char) : Prop :=
  (∀ c ∈ core.head?, ¬ isBlank c) ∧ ∀ c ∈ core.getLast?, ¬ isBlank c

/-- The text is the core, which no blank begins or ends, with nothing but blanks around it. -/
def Pads (cs core : List Char) : Prop :=
  Unpadded core ∧ ∃ before after, cs = before ++ core ++ after ∧ (∀ c ∈ before, isBlank c) ∧
    ∀ c ∈ after, isBlank c

variable {cs core : List Char}

theorem not_isBlank_head_dropWhile (cs : List Char) :
    ∀ c ∈ (cs.dropWhile isBlank).head?, ¬ isBlank c := by
  intro c first
  have stops := List.head?_dropWhile_not isBlank cs
  rw [Option.mem_def.mp first] at stops
  exact ne_true_of_eq_false stops

/-- Only blanks are dropped before the first character that is none. -/
theorem dropWhile_isBlank {before rest : List Char} (blank : ∀ c ∈ before, isBlank c)
    (stops : ∀ c ∈ rest.head?, ¬ isBlank c) : (before ++ rest).dropWhile isBlank = rest := by
  rw [List.dropWhile_append_of_pos blank]
  cases rest with
  | nil => rfl
  | cons c rest => exact List.dropWhile_cons_of_neg (stops c rfl)

theorem isBlank_of_mem_takeWhile {c : Char} (member : c ∈ cs.takeWhile isBlank) : isBlank c :=
  List.mem_takeWhile_imp member

theorem pads_trim (cs : List Char) : Pads cs (trim cs) := by
  let rest := cs.dropWhile isBlank
  let after := (rest.reverse.takeWhile isBlank).reverse
  have split : rest = trim cs ++ after := by
    calc rest = (rest.reverse.takeWhile isBlank ++ rest.reverse.dropWhile isBlank).reverse := by
          rw [List.takeWhile_append_dropWhile, List.reverse_reverse]
      _ = trim cs ++ after := List.reverse_append
  refine ⟨⟨?first, ?last⟩, cs.takeWhile isBlank, after, ?whole, ?before, ?after⟩
  case first =>
    intro c first
    apply not_isBlank_head_dropWhile cs
    show c ∈ rest.head?
    rw [split, List.head?_append, Option.mem_def.mp first]
    rfl
  case last =>
    intro c last
    apply not_isBlank_head_dropWhile rest.reverse
    rw [← List.getLast?_reverse]
    exact last
  case whole =>
    rw [List.append_assoc, ← split, List.takeWhile_append_dropWhile]
  case before =>
    intro c member
    exact isBlank_of_mem_takeWhile member
  case after =>
    intro c member
    exact isBlank_of_mem_takeWhile (List.mem_reverse.mp member)

theorem trim_of_pads (padded : Pads cs core) : trim cs = core := by
  obtain ⟨⟨first, last⟩, before, after, rfl, blankBefore, blankAfter⟩ := padded
  have behind : trim (before ++ core ++ after) =
      (((core ++ after).dropWhile isBlank).reverse.dropWhile isBlank).reverse := by
    rw [trim, List.append_assoc, List.dropWhile_append_of_pos blankBefore]
  have blank : ∀ c ∈ after.reverse, isBlank c := by
    intro c member
    exact blankAfter c (List.mem_reverse.mp member)
  have stops : ∀ c ∈ core.reverse.head?, ¬ isBlank c := by
    rw [List.head?_reverse]
    exact last
  cases core with
  | nil =>
    rw [behind, List.nil_append, List.dropWhile_eq_nil_iff.mpr blankAfter]
    rfl
  | cons c core =>
    rw [behind, List.cons_append, List.dropWhile_cons_of_neg (first c rfl), ← List.cons_append,
      List.reverse_append, dropWhile_isBlank blank stops, List.reverse_reverse]

/-- **A text is trimmed to what the blanks around it leave.** -/
theorem trim_eq_iff : trim cs = core ↔ Pads cs core := by
  constructor
  · rintro rfl
    exact pads_trim cs
  · exact trim_of_pads

/-- To say something of the core of a text is to say it of what the text is trimmed to. -/
theorem exists_pads_iff {P : List Char → Prop} : (∃ core, Pads cs core ∧ P core) ↔ P (trim cs) := by
  constructor
  · rintro ⟨core, padded, holds⟩
    rw [trim_of_pads padded]
    exact holds
  · intro holds
    exact ⟨trim cs, pads_trim cs, holds⟩

theorem trim_of_unpadded (unpadded : Unpadded core) : trim core = core :=
  trim_of_pads ⟨unpadded, [], [], by simp, by simp, by simp⟩

/-- Blanks at the ends make no difference. -/
theorem trim_append {before after : List Char} (cs : List Char) (blankBefore : ∀ c ∈ before, isBlank c)
    (blankAfter : ∀ c ∈ after, isBlank c) : trim (before ++ cs ++ after) = trim cs := by
  obtain ⟨unpadded, inner, outer, whole, blankInner, blankOuter⟩ := pads_trim cs
  apply trim_of_pads
  refine ⟨unpadded, before ++ inner, outer ++ after, ?_, ?_, ?_⟩
  · calc before ++ cs ++ after = before ++ (inner ++ trim cs ++ outer) ++ after := by rw [← whole]
      _ = before ++ inner ++ trim cs ++ (outer ++ after) := by simp only [List.append_assoc]
  · exact List.forall_mem_append.mpr ⟨blankBefore, blankInner⟩
  · exact List.forall_mem_append.mpr ⟨blankOuter, blankAfter⟩

/-- A text is trimmed to nothing only if it is blank throughout. -/
theorem trim_ne_nil {c : Char} (member : c ∈ cs) (visible : ¬ isBlank c) : trim cs ≠ [] := by
  intro nothing
  obtain ⟨-, before, after, rfl, blankBefore, blankAfter⟩ := trim_eq_iff.mp nothing
  simp only [List.append_nil, List.mem_append] at member
  exact visible (member.elim (blankBefore c) (blankAfter c))

end SimdProfile.Text

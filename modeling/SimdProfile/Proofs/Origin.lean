import Mathlib.Data.List.TakeWhile
import SimdProfile.Report.Name

/-!
# The last name of an origin

An origin names its source by what follows its last slash, once the slashes at its end are dropped and
with them the dots that only stay where they are. Components that are counted from the front, as
`Origin.components` has them, come to the same: `Origin.baseName?_eq`. No name is left if the origin had
nothing else, and the names that stand for directories, a dot or two, name no source.
-/

namespace SimdProfile

namespace Origin

/-- A text read from its end, without the slashes there and the single dots between and after them. -/
def strip : List Char → List Char
  | '/' :: rest => strip rest
  | '.' :: '/' :: rest => strip rest
  | text => text

/-- What follows the last slash of an origin, without slashes and single dots at its end. -/
def lastName (origin : List Char) : List Char :=
  ((strip origin.reverse).takeWhile (· ≠ '/')).reverse

example : lastName "src//kernels/noise.ispc/././/".toList = "noise.ispc".toList := by decide

theorem components_append (before after : List Char) :
    components (before ++ '/' :: after) = components before ++ components after := by
  rw [components, List.splitOn_append_cons_self, List.filter_append]
  rfl

theorem components_of_slashless {name : List Char} (slashless : '/' ∉ name) :
    components name = if name = [] ∨ name = ['.'] then [] else [name] := by
  rw [components, List.splitOn_eq_singleton slashless]
  by_cases empty : name = []
  · simp [empty]
  · by_cases dot : name = ['.'] <;> simp [empty, dot]

/-- Up to its first slash a text has none, and there it goes on. -/
theorem eq_takeWhile_append (text : List Char) :
    '/' ∉ text.takeWhile (· ≠ '/') ∧
      (text = text.takeWhile (· ≠ '/') ∨ ∃ rest, text = text.takeWhile (· ≠ '/') ++ '/' :: rest) := by
  have whole := List.takeWhile_append_dropWhile (p := (· ≠ '/')) (l := text)
  refine ⟨fun slash => by simpa using List.mem_takeWhile_imp slash, ?_⟩
  cases left : text.dropWhile (· ≠ '/') with
  | nil =>
    rw [left, List.append_nil] at whole
    exact .inl whole.symm
  | cons c rest =>
    have first := List.head?_dropWhile_not (· ≠ '/') text
    rw [left] at first
    have slash : c = '/' := by simpa using first
    rw [left, slash] at whole
    exact .inr ⟨rest, whole.symm⟩

/-- The last component is the last name, unless this is none or a dot. -/
theorem getLast?_components (text : List Char) {name : List Char}
    (named : ((strip text).takeWhile (· ≠ '/')).reverse = name) :
    (components text.reverse).getLast? = if name = [] ∨ name = ['.'] then none else some name := by
  fun_induction strip text with
  | case1 rest ih =>
    have nothing : components [] = [] := rfl
    rw [List.reverse_cons, components_append, nothing, List.append_nil]
    exact ih named
  | case2 rest ih =>
    have nothing : components ['.'] = [] := rfl
    have spelled : ('.' :: '/' :: rest).reverse = rest.reverse ++ '/' :: ['.'] := by simp
    rw [spelled, components_append, nothing, List.append_nil]
    exact ih named
  | case3 text unslashed undotted =>
    -- What is left ends in its last name, with a slash before it or the beginning of the origin.
    obtain ⟨slashless, split⟩ := eq_takeWhile_append text
    have spelled : text.takeWhile (· ≠ '/') = name.reverse := by rw [← named, List.reverse_reverse]
    rw [spelled] at slashless split
    have single : components name = if name = [] ∨ name = ['.'] then [] else [name] :=
      components_of_slashless (by simpa using slashless)
    rcases split with rfl | ⟨before, rfl⟩
    · rw [List.reverse_reverse, single]
      split <;> rfl
    · have proper : ¬ (name = [] ∨ name = ['.']) := by
        rintro (rfl | rfl)
        · exact unslashed before rfl
        · exact undotted before rfl
      have last : (name.reverse ++ '/' :: before).reverse = before.reverse ++ '/' :: name := by simp
      rw [last, components_append, single, if_neg proper, if_neg proper, List.getLast?_concat]

/-- A source is named by the last name of its origin, unless this stands for a directory. -/
theorem baseName?_eq (origin : List Char) {name : List Char} (named : lastName origin = name) :
    baseName? origin = if name = [] ∨ name = ['.'] ∨ name = ['.', '.'] then none else some name := by
  have last := getLast?_components origin.reverse named
  rw [List.reverse_reverse] at last
  rw [baseName?, last]
  by_cases nameless : name = [] ∨ name = ['.']
  · rcases nameless with rfl | rfl <;> rfl
  · rw [not_or] at nameless
    by_cases up : name = ['.', '.'] <;> simp [nameless, up]

end Origin

namespace Report

/-- A report is named for the last name of its origin. -/
theorem programName_eq (r : Report) {name : List Char} (named : Origin.lastName r.file.toList = name) :
    r.programName =
      if name = [] ∨ name = ['.'] ∨ name = ['.', '.'] then "unknown".toList else name := by
  rw [programName, Origin.baseName?_eq _ named]
  split <;> rfl

/-- It is named unknown if there is no last name, or if this is the name. -/
theorem programName_eq_unknown_iff (r : Report) {name : List Char}
    (named : Origin.lastName r.file.toList = name) :
    r.programName = "unknown".toList ↔
      name = [] ∨ name = ['.'] ∨ name = ['.', '.'] ∨ name = "unknown".toList := by
  rw [r.programName_eq named]
  by_cases nameless : name = [] ∨ name = ['.'] ∨ name = ['.', '.']
  · rw [if_pos nameless]
    exact iff_of_true rfl (nameless.imp_right (·.imp_right .inl))
  · rw [if_neg nameless]
    rw [not_or, not_or] at nameless
    obtain ⟨nonempty, undotted, down⟩ := nameless
    rw [or_iff_right nonempty, or_iff_right undotted, or_iff_right down]

end Report

end SimdProfile

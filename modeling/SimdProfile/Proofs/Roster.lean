import SimdProfile.Roster

/-!
# Profiles in the roster

What each operation of the roster does to the profiles it holds, seen thread by thread: to amend, to
dismiss and to enlist a thread reaches the profile of that thread and no other.
-/

namespace SimdProfile

namespace Roster

variable (r : Roster) {t u : ThreadId}

theorem lookup_cell (v : ThreadId) (cell : Cell) (rest : List (ThreadId × Cell)) :
    ((v, cell) :: rest).lookup u = if u = v then some cell else rest.lookup u := by
  by_cases same : u = v
  · rw [if_pos same, same, List.lookup_cons_self]
  · rw [if_neg same, List.lookup_cons, beq_false_of_ne same]

theorem profile?_amend_self (t : ThreadId) (f : ThreadProfile → ThreadProfile) :
    (r.amend t f).profile? t = (r.profile? t).map f := by
  unfold profile? cell? amend
  induction r.cells with
  | nil => rfl
  | cons entry rest ih =>
    obtain ⟨v, cell⟩ := entry
    rw [List.map_cons, lookup_cell]
    by_cases own : t = v
    · subst own
      simp
    · simp only [Ne.symm own, if_false, lookup_cell, own]
      exact ih

theorem profile?_amend_of_ne (h : u ≠ t) (f : ThreadProfile → ThreadProfile) :
    (r.amend t f).profile? u = r.profile? u := by
  unfold profile? cell? amend
  induction r.cells with
  | nil => rfl
  | cons entry rest ih =>
    obtain ⟨v, cell⟩ := entry
    rw [List.map_cons, lookup_cell]
    by_cases own : u = v
    · subst own
      simp [h]
    · split
      · simp only [lookup_cell, own, if_false]
        exact ih
      · simp only [lookup_cell, own, if_false]
        exact ih

/-- Profiles depend on the cells alone. -/
theorem profile?_congr {r s : Roster} (h : s.cells = r.cells) (t : ThreadId) :
    s.profile? t = r.profile? t := by
  rw [profile?, cell?, h, profile?, cell?]

/-- Entries that are kept for their keys are found as before, and the others not at all. -/
theorem lookup_filter_key {α β : Type} [DecidableEq α] (keep : α → Bool) (l : List (α × β))
    (k : α) :
    (l.filter fun entry => keep entry.1).lookup k = if keep k then l.lookup k else none := by
  induction l with
  | nil => simp
  | cons entry l ih =>
    obtain ⟨k', v⟩ := entry
    rw [List.filter_cons, List.lookup_cons]
    by_cases same : k = k'
    · subst same
      by_cases kept : keep k <;> simp [kept, ih]
    · rw [beq_false_of_ne same]
      split
      · rw [List.lookup_cons, beq_false_of_ne same]
        exact ih
      · exact ih

theorem lookup_filter (cells : List (ThreadId × Cell)) :
    (cells.filter (·.1 ≠ t)).lookup u = if u = t then none else cells.lookup u := by
  rw [lookup_filter_key fun v => v ≠ t]
  by_cases same : u = t <;> simp [same]

theorem cell?_dismiss : (r.dismiss t).1.cell? u = if u = t then none else r.cell? u := by
  cases found : r.cell? t with
  | none =>
    simp only [dismiss, found]
    split
    · next same => rw [same, found]
    · rfl
  | some cell =>
    simp only [dismiss, found]
    simp only [cell?, lookup_filter]

/-- To dismiss a thread takes its profile away and leaves all others. -/
theorem profile?_dismiss : (r.dismiss t).1.profile? u = if u = t then none else r.profile? u := by
  rw [profile?, cell?_dismiss, profile?]
  split <;> rfl

/-- What is dismissed is the profile the thread had. -/
theorem dismiss_found : (r.dismiss t).2.1 = r.profile? t := by
  cases found : r.cell? t with
  | none => simp only [dismiss, profile?, found, Option.map_none]
  | some cell => simp only [dismiss, profile?, found, Option.map_some]

/-! ### Enlisting -/

theorem enlist_of_library {d : Declaration} (h : r.isLibrary d.program = true) :
    r.enlist t d = (r, .ok none, []) := by
  rw [enlist, if_pos h]

/-- A thread that has a profile keeps it. -/
theorem enlist_of_some {d : Declaration} {c : ThreadProfile} (h : r.isLibrary d.program = false)
    (has : r.profile? t = some c) : ∃ handle, r.enlist t d = (r, .ok (some handle), []) := by
  obtain ⟨cell, found, -⟩ := Option.map_eq_some_iff.mp has
  have known : r.handle? t = some cell.handle := by rw [handle?, found]; rfl
  refine ⟨cell.handle, ?_⟩
  simp only [enlist, h, Bool.false_eq_true, if_false, known]

/-- A thread without a profile gets an empty one, unless the counters refuse. -/
theorem claim_of_none {d : Declaration} (unknown : r.handle? t = none) :
    (∃ e, (r.claim t d).2.1 = .error e ∧ ∀ u, (r.claim t d).1.profile? u = r.profile? u) ∨
      ∃ handle, (r.claim t d).2.1 = .ok handle ∧
        ∀ u, (r.claim t d).1.profile? u = if u = t then some (.create t d) else r.profile? u := by
  simp only [claim, unknown]
  split
  · next e _ => exact .inl ⟨e, rfl, fun u => profile?_congr rfl u⟩
  · refine .inr ⟨r.nextHandle, rfl, fun u => ?_⟩
    simp only [profile?, cell?, lookup_cell]
    split <;> rfl

theorem enlist_of_none {d : Declaration} (h : r.isLibrary d.program = false)
    (has : r.profile? t = none) :
    (∃ e, (r.enlist t d).2.1 = .error e ∧ ∀ u, (r.enlist t d).1.profile? u = r.profile? u) ∨
      ∃ handle, (r.enlist t d).2.1 = .ok (some handle) ∧
        ∀ u, (r.enlist t d).1.profile? u = if u = t then some (.create t d) else r.profile? u := by
  have unknown : r.handle? t = none :=
    Option.map_eq_none_iff.mpr (Option.map_eq_none_iff.mp has)
  simp only [enlist, h, Bool.false_eq_true, if_false, unknown]
  rcases r.claim_of_none (d := d) unknown with ⟨e, failed, same⟩ | ⟨handle, given, same⟩
  · exact .inl ⟨e, by rw [failed]; rfl, same⟩
  · exact .inr ⟨handle, by rw [given]; rfl, same⟩

end Roster

end SimdProfile

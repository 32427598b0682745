import Mathlib.Data.List.Induction
import SimdProfile.Proofs.Roster.Stray

/-!
# Every piece of work is in one profile

The profile of a resident is what the work on its handle makes of an empty profile, from the claim that
began it on (`account_of_resident`). A cell that is removed still gets the work of its holders, until its
profile is taken out (`Awaits.run`), and then the profile is the answer, as it is. The handle is that of no
resident ever after.
-/

namespace SimdProfile

namespace Roster

namespace Handover

variable {s start : Handover} {w : List Move} {h : Handle}

/-- The profile of a cell is that of the claim that began it, with the work on its handle since. -/
def Account (start : Handover) (w : List Move) (entry : ThreadId × Cell) : Prop :=
  ∃ before who since d, w = before ++ .whole (.claim who) :: since ∧
    (start.run before).shared.Begins who entry.1 entry.2.handle d ∧
    entry.2.profile = (ThreadProfile.create entry.1 d).run (worked entry.2.handle since)

/-- Every resident of a new roster has such an account. -/
theorem account_of_resident (tidy : start.Tidy) (new : start.residents = []) (w : List Move)
    {entry : ThreadId × Cell} (member : entry ∈ (start.run w).residents) : Account start w entry := by
  induction w using List.reverseRecOn generalizing entry with
  | nil =>
    rw [show start.run [] = start from rfl, new] at member
    cases member
  | append_singleton w x ih =>
    rw [run_append] at member
    rcases (tidy.run w).resident_step x member with ⟨p, old, made⟩ | ⟨who, d, rfl, begun, -, made⟩
    · obtain ⟨before, who, since, d, rfl, begun, account⟩ := ih old
      refine ⟨before, who, since ++ [x], d, by simp, begun, ?_⟩
      have account : p = (ThreadProfile.create entry.1 d).run (worked entry.2.handle since) := account
      rw [made, account, worked_concat, ThreadProfile.run_append]
    · exact ⟨w, who, [], d, rfl, begun, made⟩

/-! ### On the way out -/

/-- A profile of a handle is about to be taken out. -/
def Awaits (s : Handover) (h : Handle) (t : ThreadId) (p : ThreadProfile) : Prop :=
  s.removed.find? (·.2.handle = h) = some (t, ⟨h, p⟩)

theorem find?_map_of_same {α : Type} {f : α → α} {keep : α → Bool} (same : ∀ a, keep (f a) = keep a)
    (l : List α) : (l.map f).find? keep = (l.find? keep).map f := by
  rw [List.find?_map]
  have all : keep ∘ f = keep := funext same
  rw [all]

/-- Until it is, holders go on working on it. -/
theorem Awaits.step {t : ThreadId} {p : ThreadProfile} (awaits : s.Awaits h t p) (tidy : s.Tidy)
    {x : Move} (stays : x ≠ .takeOut h) : (s.step x).1.Awaits h t (p.run (x.work? h).toList) := by
  unfold Awaits at awaits ⊢
  cases x with
  | whole x =>
    show (s.removed.map x.onEntry).find? _ = _
    rw [find?_map_of_same (fun entry => by rw [handle_onEntry]), awaits]
    cases x with
    | work k a =>
      by_cases own : k = h
      · subst own
        simp only [Option.map_some, Section.onEntry, Move.work?, if_true]
        rfl
      · simp only [Option.map_some, Section.onEntry, Move.work?, if_neg own, if_neg (Ne.symm own)]
        rfl
    | _ => rfl
  | copy k =>
    simp only [Handover.step]
    split <;> exact awaits
  | remove u =>
    cases found : s.shared.roster.cell? u with
    | none =>
      simp only [Handover.step, found]
      exact awaits
    | some cell =>
      simp only [Handover.step, found]
      have differs : cell.handle ≠ h :=
        tidy.apart (mem_cells_of_cell? found) (List.mem_of_find?_eq_some awaits)
      rw [List.find?_cons_of_neg (by simpa using differs)]
      exact awaits
  | takeOut k =>
    have differs : k ≠ h := fun same => stays (same ▸ rfl)
    cases found : s.removed.find? (·.2.handle = k) with
    | none =>
      simp only [Handover.step, found]
      exact awaits
    | some entry =>
      simp only [Handover.step, found, takeOut_eq]
      have others : ∀ entry : ThreadId × Cell, (decide (entry.2.handle ≠ k) &&
          decide (entry.2.handle = h)) = decide (entry.2.handle = h) := by
        intro entry
        by_cases own : entry.2.handle = h
        · simp [own, Ne.symm differs]
        · simp [own]
      rw [List.find?_filter]
      simp only [Bool.decide_and, Bool.decide_eq_true, others]
      exact awaits

theorem Awaits.run {t : ThreadId} {p : ThreadProfile} (awaits : s.Awaits h t p) (tidy : s.Tidy)
    {v : List Move} (stays : Move.takeOut h ∉ v) : (s.run v).Awaits h t (p.run (worked h v)) := by
  induction v generalizing s p with
  | nil => exact awaits
  | cons x v ih =>
    rw [List.mem_cons, not_or] at stays
    have later := ih (awaits.step tidy (Ne.symm stays.1)) (tidy.step x) stays.2
    rw [worked_cons, ThreadProfile.run_append]
    exact later

theorem awaits_remove {t : ThreadId} {cell : Cell} (found : s.shared.roster.cell? t = some cell) :
    (s.step (.remove t)).1.Awaits cell.handle t cell.profile := by
  simp only [Awaits, Handover.step, found]
  exact List.find?_cons_of_pos (by simp)

/-! ### What becomes of a profile -/

/-- What becomes of a profile that is taken out, and of its handle. -/
structure Delivery (start : Handover) (w : List Move) (x : Move) (t : ThreadId) (cell : Cell) : Prop where
  /-- The profile is the answer, whether its handle is held or not. -/
  answer : ((start.run w).step x).2 = .dismissed cell.profile
  owner : cell.profile.owner = t
  /-- It has all the work on its handle since it was begun. -/
  account : Account start w (t, cell)
  /-- Holders are left with an empty one, and with what they do on it. -/
  left : ∀ v, (start.run (w ++ x :: v)).shared.roster.deref? cell.handle =
    if cell.handle ∈ (start.run (w ++ x :: v)).held then
      some ((ThreadProfile.create t cell.profile.declaration).run (worked cell.handle v))
    else none
  /-- No thread ever has the handle. -/
  apart : ∀ v, cell.handle ∉ (start.run (w ++ x :: v)).residents.map (·.2.handle)
  /-- The rest is as it is without the work of the holders. -/
  alone : ∀ v, (start.run (w ++ x :: v)).forget cell.handle =
    (start.run (w ++ x :: silence cell.handle v)).forget cell.handle
  /-- The others are answered as they are without it. -/
  unheard : ∀ v, (start.run (w ++ [x])).answers cell.handle v =
    (start.run (w ++ [x])).answers cell.handle (silence cell.handle v)

/-- What a move takes out is delivered. -/
theorem delivery_of_parts (tidy : start.Tidy) (new : start.residents = []) {x : Move} {t : ThreadId}
    {cell : Cell} (parting : (start.run w).parts x = some (t, cell)) : Delivery start w x t cell := by
  obtain ⟨member, answer, gone, left⟩ := (tidy.run w).leaves parting
  have account := account_of_resident tidy new w member
  have fresh : cell.profile.owner = t ∧
      cell.profile.fresh = .create t cell.profile.declaration := by
    obtain ⟨before, who, since, d, -, -, made⟩ := account
    have made : cell.profile = (ThreadProfile.create t d).run (worked cell.handle since) := made
    rw [made, ThreadProfile.owner_run, ThreadProfile.fresh_run, ThreadProfile.declaration_run]
    exact ⟨rfl, rfl⟩
  have tidied := (tidy.run w).step x
  have after (v : List Move) : start.run (w ++ x :: v) = ((start.run w).step x).1.run v :=
    run_append ..
  refine ⟨answer, fresh.1, account, fun v => ?_, fun v => ?_, fun v => ?_, fun v => ?_⟩
  · obtain ⟨gone, left⟩ := left.run gone tidied v
    rw [after, gone.deref?, left, ← fresh.2]
  · rw [after]
    exact (left.run gone tidied v).1.absent
  · rw [after, after]
    exact (gone.silenced tidied v).1
  · rw [after]
    exact (gone.silenced tidied v).2

/-- Whatever has happened, and whoever holds handles: no two profiles have one handle, and those that were
not taken out have all the work on their handles since they were begun. A profile can be taken out at once,
or after its cell was removed and holders had worked on it. Then it is the answer with all of that, holders
are left with an empty one, and what they do comes to no other profile. -/
theorem handover_loses_and_duplicates_nothing (libraryOrigin : String) (source : Counters.Source)
    (w : List Move) :
    let start := create libraryOrigin source
    (start.run w).handles.Nodup ∧
    (∀ entry ∈ (start.run w).residents, Account start w entry) ∧
    (∀ t cell, (start.run w).shared.roster.cell? t = some cell →
      (start.run w).parts (.whole (.dismiss t)) = some (t, cell) ∧
      ∀ v, .takeOut cell.handle ∉ v → (start.run (w ++ .remove t :: v)).parts (.takeOut cell.handle) =
        some (t, ⟨cell.handle, cell.profile.run (worked cell.handle v)⟩)) ∧
    ∀ x t cell, (start.run w).parts x = some (t, cell) → Delivery start w x t cell := by
  intro start
  have tidy : start.Tidy := tidy_create libraryOrigin source
  refine ⟨(tidy.run w).handles, fun entry => account_of_resident tidy rfl w,
    fun t cell found => ⟨?_, fun v stays => ?_⟩, fun x t cell => delivery_of_parts tidy rfl⟩
  · simp [parts, found]
  · rw [run_append, run_cons]
    exact (awaits_remove found).run ((tidy.run w).step _) stays

/-- A holder enters a loop, and enters another after the cell was removed. It is left with an empty profile
and goes on, while the thread is enlisted again and enters a third. -/
theorem handover_of_loops_to_last_holder :
    let t : ThreadId := ⟨1⟩
    let d : Declaration := ⟨"kernel.ispc", 1, 8, .ofWord 0x3e⟩
    let loop (line : Int32) : Action := .enter .loop line 9 0xff none
    let start := create "" .disabled
    let w : List Move := [.whole (.seek 0 t d), .whole (.claim 0), .whole (.work 0 (loop 3))]
    let between : List Move := [.whole (.work 0 (loop 5))]
    let later : List Move := [.whole (.work 0 (loop 6)), .whole (.seek 1 t d), .whole (.claim 1),
      .whole (.work 1 (loop 7))]
    let p := (ThreadProfile.create t d).run [loop 3, loop 5]
    let removed := w ++ .remove t :: between
    let after := start.run (removed ++ .takeOut 0 :: later)
    ((start.run removed).step (.takeOut 0)).2 = .dismissed p ∧
      after.shared.roster.deref? 0 = some ((ThreadProfile.create t d).run [loop 6]) ∧
      after.shared.roster.handle? t = some 1 ∧ 0 ∉ after.residents.map (·.2.handle) := by
  intro t d loop start w between later p removed after
  obtain ⟨-, -, out, -⟩ := handover_loses_and_duplicates_nothing "" .disabled w
  obtain ⟨-, -, -, delivered⟩ := handover_loses_and_duplicates_nothing "" .disabled removed
  have begun : (start.run w).shared.roster.cell? t =
    some ⟨0, (ThreadProfile.create t d).run [loop 3]⟩ := rfl
  have parting : (start.run removed).parts (.takeOut 0) = some (t, ⟨0, p⟩) :=
    (out t _ begun).2 between (by simp [between])
  have delivery : Delivery start removed (.takeOut 0) t ⟨0, p⟩ := delivered _ t _ parting
  have declaration : (⟨0, p⟩ : Cell).profile.declaration = d := ThreadProfile.declaration_run _ _
  have held : 0 ∈ after.held := by decide +kernel
  have left := delivery.left later
  rw [if_pos held, declaration] at left
  have again : after.shared.roster.handle? t = some 1 := by decide +kernel
  exact ⟨delivery.answer, left, again, delivery.apart later⟩

end Handover

end Roster

end SimdProfile

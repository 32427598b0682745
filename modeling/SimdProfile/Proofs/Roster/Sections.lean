import SimdProfile.Proofs.Profile.Action
import SimdProfile.Proofs.Roster

/-!
# Callers of the roster

Callers work with one roster at once. What they do is cut into sections that no other caller can enter,
and what happens is a row of sections, of any callers in any order. To enlist a thread takes up to two
of them: a look-up, and a claim if nothing was found. Others may have their turns in between, also for the
same thread, so the claim looks again. A caller that is given a handle holds it until it lets go.

What a section can do to the roster is said once, by `Course`: it leaves all cells with their threads,
handles and declarations, or the counters refuse a claim, or a claim begins a cell, or a dismissal ends
one.
-/

namespace SimdProfile

/-- What of a cell no work on its profile changes. -/
structure Badge where
  handle : Handle
  declaration : Declaration

/-- The badge of a cell. -/
def Cell.badge (c : Cell) : Badge := ⟨c.handle, c.profile.declaration⟩

namespace Roster

/-- The identity of a caller. -/
abbrev Caller := Nat

/-- What a caller does without another in between. -/
inductive Section where
  /-- A caller begins to enlist a thread: it looks up the profile. -/
  | seek (who : Caller) (t : ThreadId) (d : Declaration)
  /-- A caller that has found no profile goes on to claim one. -/
  | claim (who : Caller)
  | get (t : ThreadId)
  | dismiss (t : ThreadId)
  /-- A holder of a handle works on its profile. -/
  | work (handle : Handle) (a : Action)
  | letGo (handle : Handle)

/-- What a section answers. -/
inductive Outcome where
  /-- The call goes on with a claim. -/
  | pending
  /-- The library has no profile. -/
  | library
  | given (t : ThreadId) (handle : Handle)
  | refused (e : Error)
  | absent
  | dismissed (c : ThreadProfile)
  | done

/-- The thread and the handle that are given out. -/
def Outcome.given? : Outcome → Option (ThreadId × Handle)
  | .given t handle => some (t, handle)
  | _ => none

/-- A roster among its callers. Those that are about to claim a profile bring the thread and its
declaration with them. -/
structure Shared where
  roster : Roster
  claiming : Caller → Option (ThreadId × Declaration)

namespace Shared

/-- A new roster, with no caller at work. -/
def create (libraryOrigin : String) (source : Counters.Source) : Shared :=
  ⟨.create libraryOrigin source, fun _ => none⟩

/-- A caller is about to claim a profile, or is not any more. -/
def setClaim (s : Shared) (who : Caller) (claim : Option (ThreadId × Declaration)) : Shared :=
  { s with claiming := fun c => if c = who then claim else s.claiming c }

/-- A caller is given a handle, which it holds from now on. -/
def give (s : Shared) (t : ThreadId) (handle : Handle) : Shared × Outcome :=
  ({ s with roster := s.roster.hold handle }, .given t handle)

/-- A section and its answer. A caller that is about to claim a profile does that before anything else. -/
def step (s : Shared) : Section → Shared × Outcome
  | .seek who t d =>
    if (s.claiming who).isSome then (s, .pending)
    else if s.roster.isLibrary d.program then (s, .library)
    else
      match s.roster.handle? t with
      | some handle => s.give t handle
      | none => (s.setClaim who (some (t, d)), .pending)
  | .claim who =>
    match s.claiming who with
    | none => (s, .done)
    | some (t, d) =>
      let (roster, outcome, _) := s.roster.claim t d
      let s := { s.setClaim who none with roster := roster }
      match outcome with
      | .error e => (s, .refused e)
      | .ok handle => s.give t handle
  | .get t =>
    match s.roster.handle? t with
    | some handle => s.give t handle
    | none => (s, .absent)
  | .dismiss t =>
    let (roster, found, _) := s.roster.dismiss t
    ({ s with roster := roster }, found.elim .absent .dismissed)
  | .work handle a => ({ s with roster := s.roster.amendHeld handle (·.act a) }, .done)
  | .letGo handle => ({ s with roster := s.roster.unhold handle }, .done)

/-- The profile a section gives out, if it does: the thread and the handle. -/
def gives (s : Shared) (x : Section) : Option (ThreadId × Handle) := (s.step x).2.given?

/-- The roster after a row of sections. -/
def run (s : Shared) (w : List Section) : Shared := w.foldl (fun s x => (s.step x).1) s

theorem run_cons (s : Shared) (x : Section) (w : List Section) :
    s.run (x :: w) = (s.step x).1.run w := rfl

theorem run_append (s : Shared) (v w : List Section) : s.run (v ++ w) = (s.run v).run w :=
  List.foldl_append

/-- A property that every section keeps is kept by every row of them. -/
theorem run_induction {motive : Shared → Prop} {s : Shared} {w : List Section}
    (step : ∀ s, ∀ x ∈ w, motive s → motive (s.step x).1) (start : motive s) : motive (s.run w) := by
  induction w generalizing s with
  | nil => exact start
  | cons x w ih =>
    exact ih (fun s y member => step s y (.tail x member)) (step s x (.head w) start)

end Shared

/-! ### Enlisting -/

/-- The answer of a call that enlists a thread. -/
def Outcome.enlisted? : Outcome → Option (Except Error (Option Handle))
  | .library => some (.ok none)
  | .given _ handle => some (.ok (some handle))
  | .refused e => some (.error e)
  | _ => none

/-- To enlist a thread is its look-up and, if this finds nothing, its claim, with no other caller in
between. -/
theorem enlist_eq_sections {s : Shared} {who : Caller} (free : s.claiming who = none) (t : ThreadId)
    (d : Declaration) :
    let sought := s.step (.seek who t d)
    let claimed := sought.1.step (.claim who)
    let last := if sought.2.enlisted?.isSome then sought else claimed
    some (s.roster.enlist t d).2.1 = last.2.enlisted? ∧
      (s.roster.enlist t d).1.cells = last.1.roster.cells ∧
      (s.roster.enlist t d).1.service = last.1.roster.service ∧ last.1.claiming = s.claiming := by
  intro sought claimed last
  by_cases library : s.roster.isLibrary d.program = true
  · simp [last, sought, Shared.step, enlist, free, library, Outcome.enlisted?]
  · cases known : s.roster.handle? t with
    | some handle =>
      simp [last, sought, Shared.step, enlist, free, library, known, Outcome.enlisted?, Shared.give, hold]
    | none =>
      have restored : (fun c => if c = who then none else if c = who then some (t, d) else s.claiming c) =
          s.claiming := by
        funext c
        split
        · next same => rw [same, free]
        · rfl
      cases outcome : (s.roster.claim t d).2.1 with
      | ok handle =>
        have given : some <$> (.ok handle : Except Error Handle) = .ok (some handle) := rfl
        simp [last, claimed, sought, Shared.step, enlist, free, library, known, Outcome.enlisted?,
          Shared.give, Shared.setClaim, hold, outcome, restored, given]
      | error e =>
        have refused : some <$> (.error e : Except Error Handle) = .error e := rfl
        simp [last, claimed, sought, Shared.step, enlist, free, library, known, Outcome.enlisted?,
          Shared.setClaim, outcome, restored, refused]

/-! ### The course of a section -/

/-- The badges of all threads. -/
def badges (r : Roster) : List (ThreadId × Badge) := r.cells.map fun entry => (entry.1, entry.2.badge)

/-- The badge of a thread. -/
def badge? (r : Roster) (t : ThreadId) : Option Badge := (r.cell? t).map Cell.badge

/-- The threads that have profiles. -/
def threads (r : Roster) : List ThreadId := r.cells.map (·.1)

theorem handle?_eq (r : Roster) (t : ThreadId) : r.handle? t = (r.badge? t).map (·.handle) := by
  rw [badge?, Option.map_map]
  rfl

theorem badge?_eq_lookup (r : Roster) (t : ThreadId) : r.badge? t = r.badges.lookup t := by
  unfold badge? cell? badges
  induction r.cells with
  | nil => rfl
  | cons entry rest ih =>
    obtain ⟨v, cell⟩ := entry
    by_cases same : t = v
    · rw [List.map_cons, same, List.lookup_cons_self, List.lookup_cons_self, Option.map_some]
    · rw [List.map_cons, List.lookup_cons, List.lookup_cons, beq_false_of_ne same]
      exact ih

theorem threads_eq (r : Roster) : r.threads = r.badges.map (·.1) := by
  rw [threads, badges, List.map_map]
  rfl

theorem size_eq (r : Roster) : r.size = r.threads.length := by
  rw [size, threads, List.length_map]

namespace Shared

/-- What a section does to the roster: it keeps all badges, or the counters refuse a profile, or a
profile is begun, or one is ended. -/
inductive Course (s : Shared) (x : Section) (after : Roster) : Prop where
  | keeps (service : after.service = s.roster.service)
      (next : after.nextHandle = s.roster.nextHandle) (badges : after.badges = s.roster.badges)
  | refuses (who : Caller) (t : ThreadId) (d : Declaration) (e : Error) (claims : x = .claim who)
      (claiming : s.claiming who = some (t, d)) (vacant : s.roster.badge? t = none)
      (outcome : s.roster.service.addUser.2.1 = .error e)
      (service : after.service = s.roster.service.addUser.1)
      (next : after.nextHandle = s.roster.nextHandle) (badges : after.badges = s.roster.badges)
  | begins (who : Caller) (t : ThreadId) (d : Declaration) (claims : x = .claim who)
      (claiming : s.claiming who = some (t, d)) (vacant : s.roster.badge? t = none)
      (outcome : s.roster.service.addUser.2.1 = .ok ())
      (service : after.service = s.roster.service.addUser.1)
      (next : after.nextHandle = s.roster.nextHandle + 1)
      (cells : after.cells = (t, ⟨s.roster.nextHandle, .create t d⟩) :: s.roster.cells)
  | ends (t : ThreadId) (dismisses : x = .dismiss t) (member : t ∈ s.roster.threads)
      (service : after.service = s.roster.service.dropUser.1)
      (next : after.nextHandle = s.roster.nextHandle)
      (cells : after.cells = s.roster.cells.filter (·.1 ≠ t))

end Shared

/-- Whoever holds a handle, work on its profile changes no badge. -/
theorem badges_amendHeld (r : Roster) (handle : Handle) (a : Action) :
    (r.amendHeld handle (·.act a)).badges = r.badges := by
  simp only [badges, amendHeld, List.map_map]
  refine List.map_congr_left fun entry _ => ?_
  simp only [Function.comp_apply]
  split
  · simp only [Cell.badge, ThreadProfile.declaration_act]
  · rfl

theorem mem_cells_of_cell? {r : Roster} {t : ThreadId} {cell : Cell} (found : r.cell? t = some cell) :
    (t, cell) ∈ r.cells := by
  obtain ⟨before, after, cells, -⟩ := List.lookup_eq_some_iff.mp found
  rw [cells]
  exact List.mem_append_right _ (.head _)

theorem mem_threads_of_cell? {r : Roster} {t : ThreadId} {cell : Cell} (found : r.cell? t = some cell) :
    t ∈ r.threads :=
  List.mem_map_of_mem (mem_cells_of_cell? found)

namespace Shared

variable (s : Shared)

/-- Every section takes one of these courses. -/
theorem course (x : Section) : Course s x (s.step x).1.roster := by
  cases x with
  | seek who t d =>
    simp only [step]
    split
    · exact .keeps rfl rfl rfl
    · split
      · exact .keeps rfl rfl rfl
      · split <;> exact .keeps rfl rfl rfl
  | get t =>
    simp only [step]
    split <;> exact .keeps rfl rfl rfl
  | work handle a => exact .keeps rfl rfl (s.roster.badges_amendHeld handle a)
  | letGo handle => exact .keeps rfl rfl rfl
  | dismiss t =>
    cases found : s.roster.cell? t with
    | none =>
      simp only [step, dismiss, found]
      exact .keeps rfl rfl rfl
    | some cell =>
      simp only [step, dismiss, found]
      exact .ends t rfl (mem_threads_of_cell? found) rfl rfl rfl
  | claim who =>
    cases claiming : s.claiming who with
    | none =>
      simp only [step, claiming]
      exact .keeps rfl rfl rfl
    | some claim =>
      obtain ⟨t, d⟩ := claim
      cases known : s.roster.handle? t with
      | some handle =>
        simp only [step, claiming, Roster.claim, known]
        exact .keeps rfl rfl rfl
      | none =>
        have vacant : s.roster.badge? t = none := by
          rwa [handle?_eq, Option.map_eq_none_iff] at known
        cases outcome : s.roster.service.addUser.2.1 with
        | error e =>
          simp only [step, claiming, Roster.claim, known, outcome]
          exact .refuses who t d e rfl claiming vacant outcome rfl rfl rfl
        | ok =>
          simp only [step, claiming, Roster.claim, known, outcome]
          exact .begins who t d rfl claiming vacant outcome rfl rfl rfl

end Shared

end Roster

end SimdProfile

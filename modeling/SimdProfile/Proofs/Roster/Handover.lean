import Mathlib.Data.List.Perm.Subperm
import SimdProfile.Proofs.Roster.Identity
import SimdProfile.Proofs.Roster.Lifecycle

/-!
# Handing a profile over

The roster gives the profile of a thread up in two steps. The cell is removed from the roster, and later
the profile is taken out of its handle: if nobody holds the handle it is unwrapped, and nothing is left,
else it is detached, and an empty profile of the same thread and program is left behind for the holders.
Other callers may come in between, and holders may go on working on a profile that was removed and not yet
taken out. To dismiss a thread is to do both at once: `dismiss_eq_remove_takeOut`.

What a move can do to the profiles there are is said once, by `Course`. The cells of the roster and those
that were removed are the residents, and a profile that was left behind is a stray. A move begins a
resident, lets work be done on what has a handle, takes one resident out, or leaves them all as they are.
-/

namespace SimdProfile

namespace ThreadProfile

/-- The profile, and the empty one that is put in its place. -/
def detach (p : ThreadProfile) : ThreadProfile × ThreadProfile := (p, p.fresh)

end ThreadProfile

namespace Roster

/-- A cell is removed: its user of the counters is given back. -/
def remove (r : Roster) (t : ThreadId) : Roster :=
  { r with service := r.service.dropUser.1, cells := r.cells.filter (·.1 ≠ t) }

/-- The profile of a handle that is in no cell any more is taken out of it. -/
def takeOut (r : Roster) (handle : Handle) (p : ThreadProfile) : Roster × ThreadProfile :=
  if handle ∈ r.held then
    let (old, new) := p.detach
    ({ r with strays := (handle, new) :: r.strays }, old)
  else (r, p)

/-- Whether it is unwrapped or detached, what is taken out is the profile as it was. -/
theorem takeOut_eq (r : Roster) (handle : Handle) (p : ThreadProfile) :
    r.takeOut handle p =
      ({ r with strays := if handle ∈ r.held then (handle, p.fresh) :: r.strays else r.strays }, p) := by
  unfold takeOut
  split <;> rfl

/-- To dismiss a thread is to remove its cell and take the profile out. -/
theorem dismiss_eq_remove_takeOut {r : Roster} {t : ThreadId} {cell : Cell}
    (found : r.cell? t = some cell) :
    (r.dismiss t).1 = ((r.remove t).takeOut cell.handle cell.profile).1 ∧
      (r.dismiss t).2.1 = some ((r.remove t).takeOut cell.handle cell.profile).2 := by
  rw [takeOut_eq, dismiss, found]
  exact ⟨rfl, rfl⟩

/-- The profiles are the same, and there may be one more holder of one of them. -/
structure Lends (r after : Roster) : Prop where
  cells : after.cells = r.cells
  strays : after.strays = r.strays
  next : after.nextHandle = r.nextHandle
  held : after.held = r.held ∨ ∃ t handle, r.handle? t = some handle ∧ after.held = handle :: r.held

theorem Lends.refl (r : Roster) : r.Lends r := ⟨rfl, rfl, rfl, .inl rfl⟩

theorem Lends.hold {r : Roster} {t : ThreadId} {handle : Handle} (known : r.handle? t = some handle) :
    r.Lends (r.hold handle) :=
  ⟨rfl, rfl, rfl, .inr ⟨t, handle, known, rfl⟩⟩

theorem lends_seek (s : Shared) (who : Caller) (t : ThreadId) (d : Declaration) :
    s.roster.Lends (s.step (.seek who t d)).1.roster := by
  simp only [Shared.step]
  split
  · exact .refl _
  · split
    · exact .refl _
    · split
      · next handle known => exact .hold known
      · exact .refl _

theorem lends_get (s : Shared) (t : ThreadId) : s.roster.Lends (s.step (.get t)).1.roster := by
  simp only [Shared.step]
  split
  · next handle known => exact .hold known
  · exact .refl _

theorem mem_handles_of_handle? {r : Roster} {t : ThreadId} {handle : Handle}
    (known : r.handle? t = some handle) : handle ∈ r.cells.map (·.2.handle) := by
  obtain ⟨cell, found, rfl⟩ := Option.map_eq_some_iff.mp known
  exact List.mem_map_of_mem (mem_cells_of_cell? found)

/-- What a section does to a cell that was removed: holders of its handle work on it still. -/
def Section.onEntry : Section → ThreadId × Cell → ThreadId × Cell
  | .work handle a => fun entry =>
    if entry.2.handle = handle then (entry.1, { entry.2 with profile := entry.2.profile.act a })
    else entry
  | _ => id

/-- What it does to a stray. -/
def Section.onStray : Section → Handle × ThreadProfile → Handle × ThreadProfile
  | .work handle a => fun stray => if stray.1 = handle then (stray.1, stray.2.act a) else stray
  | _ => id

/-- A roster among its callers, with the cells that were removed and whose profiles are still to be taken
out. -/
structure Handover where
  shared : Shared
  removed : List (ThreadId × Cell)

/-- What happens without anything in between. -/
inductive Move where
  | whole (x : Section)
  /-- A holder of a handle has one more made of it. -/
  | copy (handle : Handle)
  /-- The cell of a thread is removed. -/
  | remove (t : ThreadId)
  /-- The profile of a handle whose cell was removed is taken out. -/
  | takeOut (handle : Handle)

/-- The work a move does on the profile of a handle. -/
def Move.work? (h : Handle) : Move → Option Action
  | .whole (.work handle a) => if handle = h then some a else none
  | _ => none

theorem Move.eq_of_work? {x : Move} {a : Action} (done : x.work? h = some a) :
    x = .whole (.work h a) := by
  unfold Move.work? at done
  split at done
  · next k b =>
    split at done
    · next same =>
      cases same
      cases done
      rfl
    · cases done
  · cases done

namespace Handover

/-- A new roster. -/
def create (libraryOrigin : String) (source : Counters.Source) : Handover :=
  ⟨.create libraryOrigin source, []⟩

/-- A move and its answer. -/
def step (s : Handover) : Move → Handover × Outcome
  | .whole x => (⟨(s.shared.step x).1, s.removed.map x.onEntry⟩, (s.shared.step x).2)
  | .copy handle =>
    if handle ∈ s.shared.roster.held then
      (⟨{ s.shared with roster := s.shared.roster.hold handle }, s.removed⟩, .done)
    else (s, .absent)
  | .remove t =>
    match s.shared.roster.cell? t with
    | none => (s, .absent)
    | some cell =>
      (⟨{ s.shared with roster := s.shared.roster.remove t }, (t, cell) :: s.removed⟩, .pending)
  | .takeOut handle =>
    match s.removed.find? (·.2.handle = handle) with
    | none => (s, .absent)
    | some entry =>
      let (roster, p) := s.shared.roster.takeOut handle entry.2.profile
      (⟨{ s.shared with roster := roster }, s.removed.filter (·.2.handle ≠ handle)⟩, .dismissed p)

/-- What there is after a row of moves. -/
def run (s : Handover) (w : List Move) : Handover := w.foldl (fun s x => (s.step x).1) s

theorem run_cons (s : Handover) (x : Move) (w : List Move) : s.run (x :: w) = (s.step x).1.run w := rfl

theorem run_append (s : Handover) (v w : List Move) : s.run (v ++ w) = (s.run v).run w :=
  List.foldl_append

/-- The cells that have profiles: those of the roster, and those that were removed. -/
def residents (s : Handover) : List (ThreadId × Cell) := s.shared.roster.cells ++ s.removed

/-- The profiles that were left behind. -/
abbrev strays (s : Handover) : List (Handle × ThreadProfile) := s.shared.roster.strays

/-- The handles that are held outside. -/
abbrev held (s : Handover) : List Handle := s.shared.roster.held

/-- The handle that is given out next. -/
abbrev next (s : Handover) : Handle := s.shared.roster.nextHandle

/-- The cell whose profile a move takes out, with its thread. -/
def parts (s : Handover) : Move → Option (ThreadId × Cell)
  | .whole (.dismiss t) => (s.shared.roster.cell? t).map (t, ·)
  | .takeOut handle => s.removed.find? (·.2.handle = handle)
  | _ => none

/-- The handles of all profiles there are. -/
def handles (s : Handover) : List Handle :=
  s.residents.map (·.2.handle) ++ s.strays.map (·.1)

/-- Threads have one cell at most, and a handle is that of one profile and was given out in its turn. -/
structure Tidy (s : Handover) : Prop where
  threads : s.shared.roster.threads.Nodup
  handles : s.handles.Nodup
  used : ∀ h ∈ s.handles, h < s.next

/-- What a move can do to the residents, to the strays and to the holders. -/
inductive Course (s : Handover) (x : Move) : Prop where
  | keeps (quiet : ∀ h, x.work? h = none) (stays : s.parts x = none)
      (residents : (s.step x).1.residents.Perm s.residents)
      (strays : (s.step x).1.strays = s.strays) (next : (s.step x).1.next = s.next)
      (held : ∀ h ∉ s.residents.map (·.2.handle), h ∈ (s.step x).1.held ↔ h ∈ s.held)
  | drops (h : Handle) (letting : x = .whole (.letGo h))
      (residents : (s.step x).1.residents = s.residents)
      (strays : (s.step x).1.strays = s.strays.filter fun stray => stray.1 ≠ h ∨ h ∈ s.held.erase h)
      (next : (s.step x).1.next = s.next) (held : (s.step x).1.held = s.held.erase h)
  | begins (who : Caller) (t : ThreadId) (d : Declaration) (claims : x = .whole (.claim who))
      (begun : s.shared.Begins who t s.next d)
      (residents : (s.step x).1.residents = (t, ⟨s.next, .create t d⟩) :: s.residents)
      (strays : (s.step x).1.strays = s.strays) (next : (s.step x).1.next = s.next + 1)
      (held : (s.step x).1.held = s.next :: s.held)
  | works (h : Handle) (a : Action) (working : x = .whole (.work h a))
      (residents : (s.step x).1.residents = s.residents.map (Section.work h a).onEntry)
      (strays : (s.step x).1.strays = s.strays.map (Section.work h a).onStray)
      (next : (s.step x).1.next = s.next) (held : (s.step x).1.held = s.held)
  | parts (entry : ThreadId × Cell) (parting : s.parts x = some entry)
      (quiet : ∀ h, x.work? h = none) (answer : (s.step x).2 = .dismissed entry.2.profile)
      (residents : s.residents.Perm (entry :: (s.step x).1.residents))
      (strays : (s.step x).1.strays =
        if entry.2.handle ∈ s.held then (entry.2.handle, entry.2.profile.fresh) :: s.strays
        else s.strays)
      (next : (s.step x).1.next = s.next) (held : (s.step x).1.held = s.held)

variable {s : Handover} {x : Section}

theorem course_of_unchanged {x : Move} (quiet : ∀ h, x.work? h = none) (stays : s.parts x = none)
    (same : (s.step x).1 = s) : Course s x :=
  .keeps quiet stays (.of_eq (congrArg _ same)) (congrArg _ same) (congrArg _ same)
    fun h _ => by rw [same]

/-- A section that lends a profile at most keeps all of them. -/
theorem course_of_lends (quiet : ∀ h, (Move.whole x).work? h = none) (onEntry : x.onEntry = id)
    (stays : s.parts (.whole x) = none)
    (lends : s.shared.roster.Lends (s.shared.step x).1.roster) : Course s (.whole x) := by
  have residents : (s.step (.whole x)).1.residents = s.residents := by
    show (s.shared.step x).1.roster.cells ++ s.removed.map x.onEntry = _
    rw [lends.cells, onEntry, List.map_id]
    rfl
  refine .keeps quiet stays (.of_eq residents) lends.strays lends.next fun h foreign => ?_
  show h ∈ (s.shared.step x).1.roster.held ↔ _
  rcases lends.held with same | ⟨t, handle, known, more⟩
  · rw [same]
  · have differs : h ≠ handle := by
      rintro rfl
      apply foreign
      rw [Handover.residents, List.map_append, List.mem_append]
      exact .inl (mem_handles_of_handle? known)
    rw [more, List.mem_cons, or_iff_right differs]

/-- Among things that are told apart by a key, one thing and those with other keys are all. -/
theorem perm_cons_filter {α β : Type} [DecidableEq β] {key : α → β} {l : List α} {a : α}
    (distinct : (l.map key).Nodup) (member : a ∈ l) : l.Perm (a :: l.filter (key · ≠ key a)) := by
  obtain ⟨before, after, rfl⟩ := List.append_of_mem member
  have around := (List.perm_middle.map key).nodup_iff.mp distinct
  rw [List.map_cons, List.nodup_cons] at around
  have others : (before ++ a :: after).filter (key · ≠ key a) = before ++ after := by
    have kept : ∀ b ∈ before ++ after, key b ≠ key a := by
      intro b other same
      exact around.1 (same ▸ List.mem_map_of_mem other)
    rw [List.filter_append, List.filter_cons_of_neg (by simp), ← List.filter_append,
      List.filter_eq_self]
    intro b other
    simpa using kept b other
  rw [others]
  exact List.perm_middle

theorem Tidy.course_dismiss (tidy : s.Tidy) (t : ThreadId) : Course s (.whole (.dismiss t)) := by
  cases found : s.shared.roster.cell? t with
  | none =>
    refine course_of_lends (fun _ => rfl) rfl (by simp [Handover.parts, found]) ?_
    simp only [Shared.step, dismiss, found]
    exact .refl _
  | some cell =>
    obtain ⟨roster, old⟩ := dismiss_eq_remove_takeOut found
    rw [takeOut_eq] at roster old
    have answer : (s.step (.whole (.dismiss t))).2 = .dismissed cell.profile := by
      show (s.shared.roster.dismiss t).2.1.elim Outcome.absent Outcome.dismissed = _
      rw [old]
      rfl
    refine .parts (t, cell) (by simp [Handover.parts, found]) (fun _ => rfl) answer ?_
      ((congrArg Roster.strays roster).trans rfl) ((congrArg Roster.nextHandle roster).trans rfl)
      ((congrArg Roster.held roster).trans rfl)
    show s.residents.Perm ((t, cell) :: ((s.shared.roster.dismiss t).1.cells ++ s.removed.map id))
    rw [roster, List.map_id]
    exact (perm_cons_filter tidy.threads (mem_cells_of_cell? found)).append_right s.removed

theorem course_claim (s : Handover) (who : Caller) : Course s (.whole (.claim who)) := by
  cases claiming : s.shared.claiming who with
  | none =>
    refine course_of_lends (fun _ => rfl) rfl rfl ?_
    simp only [Shared.step, claiming]
    exact .refl _
  | some claim =>
    obtain ⟨t, d⟩ := claim
    cases known : s.shared.roster.handle? t with
    | some handle =>
      refine course_of_lends (fun _ => rfl) rfl rfl ?_
      simp only [Shared.step, claiming, Roster.claim, known]
      exact .hold known
    | none =>
      cases outcome : s.shared.roster.service.addUser.2.1 with
      | error e =>
        refine course_of_lends (fun _ => rfl) rfl rfl ?_
        simp only [Shared.step, claiming, Roster.claim, known, outcome]
        exact ⟨rfl, rfl, rfl, .inl rfl⟩
      | ok =>
        have vacant : s.shared.roster.cell? t = none := Option.map_eq_none_iff.mp known
        have roster : (s.shared.step (.claim who)).1.roster =
            { s.shared.roster with
              service := s.shared.roster.service.addUser.1
              cells := (t, ⟨s.next, .create t d⟩) :: s.shared.roster.cells
              held := s.next :: s.held
              nextHandle := s.next + 1 } := by
          simp only [Shared.step, claiming, Roster.claim, known, outcome]
          rfl
        have begun : s.shared.Begins who t s.next d := by
          refine ⟨claiming, vacant, ?_⟩
          rw [roster, cell?, List.lookup_cons_self]
        refine .begins who t d rfl begun ?_ ((congrArg Roster.strays roster).trans rfl)
          ((congrArg Roster.nextHandle roster).trans rfl) ((congrArg Roster.held roster).trans rfl)
        show (s.shared.step (.claim who)).1.roster.cells ++ s.removed.map id = _
        rw [roster, List.map_id]
        rfl

theorem course_copy (s : Handover) (h : Handle) : Course s (.copy h) := by
  by_cases holds : h ∈ s.held
  · have more : (s.step (.copy h)).1 =
        ⟨{ s.shared with roster := s.shared.roster.hold h }, s.removed⟩ := by
      simp only [step, if_pos holds]
    refine .keeps (fun _ => rfl) rfl ?_ ((congrArg strays more).trans rfl)
      ((congrArg next more).trans rfl) fun k _ => ?_
    · rw [more]
      exact .refl _
    · rw [more]
      show k ∈ h :: s.held ↔ k ∈ s.held
      rw [List.mem_cons, or_iff_right_of_imp (fun same => same ▸ holds)]
  · exact course_of_unchanged (fun _ => rfl) rfl (by simp only [step, if_neg holds])

theorem Tidy.course_remove (tidy : s.Tidy) (t : ThreadId) : Course s (.remove t) := by
  cases found : s.shared.roster.cell? t with
  | none =>
    exact course_of_unchanged (fun _ => rfl) rfl (by simp only [step, found])
  | some cell =>
    have removed : (s.step (.remove t)).1 =
        ⟨{ s.shared with roster := s.shared.roster.remove t }, (t, cell) :: s.removed⟩ := by
      simp only [step, found]
    refine .keeps (fun _ => rfl) rfl ?_ ((congrArg strays removed).trans rfl)
      ((congrArg next removed).trans rfl) fun h _ => ?_
    · rw [removed]
      have cells := perm_cons_filter tidy.threads (mem_cells_of_cell? found)
      exact (List.perm_middle.trans (cells.append_right s.removed).symm)
    · rw [removed]
      rfl

theorem Tidy.distinct (tidy : s.Tidy) :
    (s.shared.roster.cells.map (·.2.handle) ++ s.removed.map (·.2.handle)).Nodup := by
  have all := (List.nodup_append.mp tidy.handles).1
  rwa [Handover.residents, List.map_append] at all

theorem Tidy.course_takeOut (tidy : s.Tidy) (h : Handle) : Course s (.takeOut h) := by
  cases found : s.removed.find? (·.2.handle = h) with
  | none =>
    exact course_of_unchanged (fun _ => rfl) found (by simp only [step, found])
  | some entry =>
    have handle : entry.2.handle = h := by simpa using List.find?_some found
    subst handle
    have out : s.step (.takeOut entry.2.handle) =
        (⟨{ s.shared with
            roster := (s.shared.roster.takeOut entry.2.handle entry.2.profile).1 },
          s.removed.filter (·.2.handle ≠ entry.2.handle)⟩, .dismissed entry.2.profile) := by
      simp only [step, found, takeOut_eq]
    rw [takeOut_eq] at out
    refine .parts entry found (fun _ => rfl) (congrArg (·.2) out) ?_
      ((congrArg (·.1.strays) out).trans rfl) ((congrArg (·.1.next) out).trans rfl)
      ((congrArg (·.1.held) out).trans rfl)
    rw [out]
    have cells := perm_cons_filter (List.nodup_append.mp tidy.distinct).2.1
      (List.mem_of_find?_eq_some found)
    exact (cells.append_left s.shared.roster.cells).trans List.perm_middle

/-- Every move takes one of these courses. -/
theorem Tidy.course (tidy : s.Tidy) (x : Move) : Course s x := by
  cases x with
  | whole x =>
    cases x with
    | seek who t d => exact course_of_lends (fun _ => rfl) rfl rfl (lends_seek s.shared who t d)
    | get t => exact course_of_lends (fun _ => rfl) rfl rfl (lends_get s.shared t)
    | work h a =>
      refine .works h a rfl ?_ rfl rfl rfl
      exact (List.map_append ..).symm
    | letGo h =>
      refine .drops h rfl ?_ rfl rfl rfl
      show s.shared.roster.cells ++ s.removed.map id = _
      rw [List.map_id]
      rfl
    | dismiss t => exact tidy.course_dismiss t
    | claim who => exact s.course_claim who
  | copy h => exact s.course_copy h
  | remove t => exact tidy.course_remove t
  | takeOut h => exact tidy.course_takeOut h

/-! ### Tidiness -/

theorem handle_onEntry (x : Section) (entry : ThreadId × Cell) :
    (x.onEntry entry).2.handle = entry.2.handle := by
  cases x with
  | work h a =>
    simp only [Section.onEntry]
    split <;> rfl
  | _ => rfl

theorem handle_onStray (x : Section) (stray : Handle × ThreadProfile) :
    (x.onStray stray).1 = stray.1 := by
  cases x with
  | work h a =>
    simp only [Section.onStray]
    split <;> rfl
  | _ => rfl

/-- A move uses the handles there are, some of which may go, or the next one. -/
theorem Tidy.handles_step (tidy : s.Tidy) (x : Move) :
    (s.step x).1.handles.Subperm s.handles ∧ (s.step x).1.next = s.next ∨
      (s.step x).1.handles = s.next :: s.handles ∧ (s.step x).1.next = s.next + 1 := by
  cases tidy.course x with
  | keeps quiet stays residents strays next held =>
    refine .inl ⟨?_, next⟩
    rw [Handover.handles, strays]
    exact ((residents.map _).append_right _).subperm
  | drops h letting residents strays next held =>
    refine .inl ⟨?_, next⟩
    rw [Handover.handles, residents, strays]
    exact ((List.filter_sublist.map _).append_left _).subperm
  | begins who t d claims begun residents strays next held =>
    refine .inr ⟨?_, next⟩
    rw [Handover.handles, residents, strays]
    rfl
  | works h a working residents strays next held =>
    refine .inl ⟨?_, next⟩
    rw [Handover.handles, residents, strays, List.map_map, List.map_map]
    simp only [Function.comp_def, handle_onEntry, handle_onStray]
    exact .refl _
  | parts entry parting quiet answer residents strays next held =>
    refine .inl ⟨?_, next⟩
    have before := (residents.map (·.2.handle)).append_right (s.strays.map (·.1))
    rw [Handover.handles, strays]
    split
    · exact (List.perm_middle.trans before.symm).subperm
    · exact (List.sublist_cons_self ..).subperm.trans before.symm.subperm

theorem threads_step (s : Shared) (x : Section) (distinct : s.roster.threads.Nodup) :
    (s.step x).1.roster.threads.Nodup := by
  cases s.course x with
  | keeps service next badges | refuses who t d e claims claiming vacant outcome service next badges =>
    exact (threads_of_badges badges).1 ▸ distinct
  | begins who t d claims claiming vacant outcome service next cells =>
    rw [threads, cells]
    exact List.nodup_cons.mpr ⟨not_mem_threads vacant, distinct⟩
  | ends t dismisses member service next cells =>
    rw [threads, cells]
    exact distinct.sublist (List.filter_sublist.map _)

/-- Every move leaves things tidy. -/
theorem Tidy.step (tidy : s.Tidy) (x : Move) : (s.step x).1.Tidy where
  threads := by
    cases x with
    | whole x => exact threads_step s.shared x tidy.threads
    | copy h =>
      simp only [Handover.step]
      split <;> exact tidy.threads
    | remove t =>
      simp only [Handover.step]
      split
      · exact tidy.threads
      · exact tidy.threads.sublist (List.filter_sublist.map _)
    | takeOut h =>
      simp only [Handover.step, takeOut_eq]
      split <;> exact tidy.threads
  handles := by
    rcases tidy.handles_step x with ⟨⟨l, perm, sub⟩, -⟩ | ⟨more, -⟩
    · exact perm.nodup_iff.mp (tidy.handles.sublist sub)
    · rw [more]
      exact List.nodup_cons.mpr ⟨fun old => Nat.lt_irrefl _ (tidy.used _ old), tidy.handles⟩
  used := by
    intro h member
    rcases tidy.handles_step x with ⟨fewer, next⟩ | ⟨more, next⟩
    · exact next ▸ tidy.used h (fewer.subset member)
    · rw [more] at member
      rw [next]
      rcases List.mem_cons.mp member with rfl | old
      · exact Nat.lt_succ_self _
      · exact Nat.lt_succ_of_lt (tidy.used h old)

theorem Tidy.run (tidy : s.Tidy) (w : List Move) : (s.run w).Tidy := by
  induction w generalizing s with
  | nil => exact tidy
  | cons x w ih => exact ih (tidy.step x)

theorem Tidy.apart (tidy : s.Tidy) {t : ThreadId} {cell : Cell} {entry : ThreadId × Cell}
    (present : (t, cell) ∈ s.shared.roster.cells) (absent : entry ∈ s.removed) :
    cell.handle ≠ entry.2.handle :=
  (List.nodup_append.mp tidy.distinct).2.2 _ (List.mem_map_of_mem present) _
    (List.mem_map_of_mem absent)

theorem tidy_create (libraryOrigin : String) (source : Counters.Source) :
    (create libraryOrigin source).Tidy :=
  ⟨.nil, .nil, nofun⟩

end Handover

end Roster

end SimdProfile

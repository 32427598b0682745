import Mathlib.Data.Fin.VecNotation
import Mathlib.Data.Fintype.Card
import SimdProfile.Proofs.Archive.Search

/-!
# Callers that write at once

Any number of callers write their reports to one directory, and the steps of their searches come in any
order. No two of them are given one path, none creates a file where something is, and what a caller has
written stays. If the names of their reports are the same, they take the copies in order: at every moment
the copies taken are the first ones, as many as there are callers that have written.
-/

namespace SimdProfile

namespace Archive

variable {a after : Archive} {r s : Report} {dir : Location} {copy m : Nat} {p q : Progress}
  {path : Path}

theorem pathOf_of_namesake (a : Archive) (names : r.Namesake s) (m : Nat) :
    a.pathOf r m = a.pathOf s m := by
  rw [pathOf, pathOf, names.copyName_eq]

theorem taken_of_namesake (names : r.Namesake s) : a.Taken r m ↔ a.Taken s m := by
  rw [Taken, Taken, a.pathOf_of_namesake names]

/-- No copy has a name that is taken, once the directory is there. If it is there from the start, this is
said of the archive as it is. -/
def Clear (a : Archive) (r : Report) : Prop :=
  ∀ prepared, a.prepare = .ok prepared → ∀ m, ¬ prepared.Taken r m

theorem prepare_of_opens (opens : a.disk.Opens a.directory dir) : a.prepare = .ok a := by
  rw [prepare, opens.createDirectories_eq]

theorem clear_iff_of_opens (opens : a.disk.Opens a.directory dir) :
    a.Clear r ↔ ∀ m, ¬ a.Taken r m := by
  constructor
  · intro clear
    exact clear a (prepare_of_opens opens)
  · intro free prepared found
    rw [prepare_of_opens opens] at found
    cases found
    exact free

theorem pathOf_of_directory (same : after.directory = a.directory) (r : Report) (m : Nat) :
    after.pathOf r m = a.pathOf r m := by
  rw [pathOf, pathOf, same]

theorem not_taken_of_created (created : a.createCopy r copy = .ok after) : ¬ a.Taken r copy := by
  intro taken
  rw [createCopy_taken_iff.mpr taken] at created
  cases created

/-- To create a copy takes its name and no name of another copy. -/
theorem taken_createCopy (opens : a.disk.Opens a.directory dir)
    (created : a.createCopy r copy = .ok after) :
    after.Taken r m ↔ a.Taken r m ∨ m = copy := by
  obtain ⟨file, same⟩ := createCopy_eq created
  obtain ⟨loc, leads, empty, disk⟩ := FileTree.createNew_eq file
  have grows := grows_createCopy created
  have place := location_eq opens leads
  constructor
  · rintro ⟨other, leadsAfter, there⟩
    have opensAfter : after.disk.Opens after.directory dir := same ▸ opens.mono grows.disk
    have placeAfter := location_eq opensAfter leadsAfter
    by_cases own : m = copy
    · exact .inr own
    · refine .inl ⟨other, ?_, ?_⟩
      · rw [resolve_pathOf opensAfter, pathOf_of_directory same] at leadsAfter
        rw [resolve_pathOf opens, leadsAfter]
      · have differs : other ≠ loc := by
          rw [place, placeAfter]
          intro equal
          exact own (r.copyBytes_injective (List.singleton_inj.mp (List.append_cancel_left equal)))
        rwa [disk, a.disk.node?_insert_of_ne differs] at there
  · rintro (taken | rfl)
    · rw [Taken, pathOf_of_directory same]
      exact FileTree.Has.mono taken grows.disk
    · refine ⟨loc, ?_, ?_⟩
      · rw [pathOf_of_directory same]
        exact grows.disk.resolve leads
      · rw [disk, a.disk.node?_insert_self (FileTree.ne_nil_of_node? empty)]
        exact Option.some_ne_none _

/-- Whether a caller has written its report. -/
def Progress.isWritten : Progress → Bool
  | .ended (.ok _) => true
  | _ => false

theorem Progress.isWritten_iff : p.isWritten = true ↔ ∃ path, p = .ended (.ok path) := by
  constructor
  · intro written
    unfold isWritten at written
    split at written
    · exact ⟨_, rfl⟩
    · cases written
  · rintro ⟨path, rfl⟩
    rfl

/-! ### What a step can do -/

/-- What a step of a caller does to the archive and to the caller. -/
inductive Course (a : Archive) (r : Report) : Progress → Archive → Progress → Prop where
  | rests (result : Except Error Path) : Course a r (.ended result) a (.ended result)
  | prepares {prepared : Archive} (found : a.prepare = .ok prepared) :
      Course a r .begun prepared (.trying 0)
  | refused {e : Error} (failed : a.prepare = .error e) : Course a r .begun a (.ended (.error e))
  | passes {n : Nat} (taken : a.Taken r n) : Course a r (.trying n) a (.trying (n + 1))
  | gives (n : Nat) (e : Error) : Course a r (.trying n) a (.ended (.error e))
  | creates {n : Nat} {written : Archive} (created : a.createCopy r n = .ok written) :
      Course a r (.trying n) written (.ended (.ok (a.pathOf r n)))

theorem course (a : Archive) (r : Report) (p : Progress) :
    a.Course r p (a.advance r p).1 (a.advance r p).2 := by
  cases p with
  | begun =>
    rw [advance]
    cases found : a.prepare with
    | ok prepared => exact .prepares found
    | error e => exact .refused found
  | trying copy =>
    rw [advance, attempt_eq]
    cases attempt : a.createCopy r copy with
    | ok after => exact .creates attempt
    | error fault =>
      cases fault with
      | alreadyExists =>
        by_cases more : copy < maxCopy
        · simp only [if_pos more]
          exact .passes (createCopy_taken_iff.mp attempt)
        · simp only [if_neg more]
          exact .gives copy _
      | _ => exact .gives copy _
  | ended result => exact .rests result

theorem Course.grows (c : a.Course r p after q) : a.Grows after := by
  cases c with
  | prepares found => exact grows_prepare found
  | creates created => exact grows_createCopy created
  | _ => exact .refl a

/-- A path that a step gives to a caller leads to a new file with the report of the caller. -/
theorem Course.fresh (c : a.Course r p after (.ended (.ok path))) :
    p = .ended (.ok path) ∨ ¬ a.disk.Has path ∧ after.disk.read path = .ok r.text.toUTF8 := by
  cases c with
  | rests result => exact .inl rfl
  | creates created =>
    exact .inr ⟨not_taken_of_created created, FileTree.read_of_createNew (createCopy_eq created).1⟩

end Archive

open Archive (Progress)

/-- An archive and callers that write to it. -/
structure Writers (n : Nat) where
  archive : Archive
  progress : Fin n → Progress

namespace Writers

variable {n : Nat} {reports : Fin n → Report} {s : Writers n} {a : Archive} {r : Report} {path : Path}

/-- No caller has made a step. -/
def start (a : Archive) : Writers n := ⟨a, fun _ => .begun⟩

/-- One caller makes a step. -/
def step (reports : Fin n → Report) (s : Writers n) (i : Fin n) : Writers n where
  archive := (s.archive.advance (reports i) (s.progress i)).1
  progress := Function.update s.progress i (s.archive.advance (reports i) (s.progress i)).2

/-- The callers make their steps in some order. -/
def run (reports : Fin n → Report) (s : Writers n) (w : List (Fin n)) : Writers n :=
  w.foldl (step reports) s

/-- A caller has got this path. -/
def Got (s : Writers n) (i : Fin n) (path : Path) : Prop := s.progress i = .ended (.ok path)

/-- The step of a caller leaves the others where they are. -/
theorem progress_step_of_ne {i j : Fin n} (other : j ≠ i) :
    (s.step reports i).progress j = s.progress j :=
  Function.update_of_ne other _ _

theorem course_step (reports : Fin n → Report) (s : Writers n) (i : Fin n) :
    s.archive.Course (reports i) (s.progress i) (s.step reports i).archive
      ((s.step reports i).progress i) := by
  have moved : (s.step reports i).progress i = (s.archive.advance (reports i) (s.progress i)).2 :=
    Function.update_self i _ _
  rw [moved]
  exact s.archive.course (reports i) (s.progress i)

/-- A step takes nothing away. -/
theorem grows_step (reports : Fin n → Report) (s : Writers n) (i : Fin n) :
    s.archive.Grows (s.step reports i).archive :=
  (course_step reports s i).grows

/-- A property that every step keeps holds after any number of steps. -/
theorem run_induction {P : Writers n → Prop} (keeps : ∀ s i, P s → P (s.step reports i))
    (begins : P s) (w : List (Fin n)) : P (s.run reports w) := by
  induction w generalizing s with
  | nil => exact begins
  | cons i w ih => exact ih (keeps s i begins)

/-! ### Paths and files -/

/-- What callers have got is theirs: the file has the report of the caller, and no two callers have one
path. -/
structure Sound (reports : Fin n → Report) (s : Writers n) : Prop where
  read : ∀ i path, s.Got i path → s.archive.disk.read path = .ok (reports i).text.toUTF8
  distinct : ∀ i j path, s.Got i path → s.Got j path → i = j

theorem has_of_read {t : FileTree} {contents : ByteArray} (found : t.read path = .ok contents) :
    t.Has path := by
  obtain ⟨loc, leads, found⟩ := exists_of_bind_eq_ok found
  refine ⟨loc, leads, fun empty => ?_⟩
  rw [empty] at found
  cases found

theorem Sound.step (h : s.Sound reports) (i : Fin n) : (s.step reports i).Sound reports := by
  have course := course_step reports s i
  have kept := (grows_step reports s i).files
  -- What caller `i` has got before the step or by it is kept apart from what the others have.
  have own (path : Path) (got : (s.step reports i).Got i path) :
      s.Got i path ∨ ¬ s.archive.disk.Has path ∧
        (s.step reports i).archive.disk.read path = .ok (reports i).text.toUTF8 := by
    rw [Got] at got
    rw [got] at course
    exact course.fresh
  have other {j : Fin n} {path : Path} (differs : j ≠ i) (got : (s.step reports i).Got j path) :
      s.Got j path := by
    rwa [Got, progress_step_of_ne differs] at got
  have apart {j : Fin n} {path : Path} (differs : j ≠ i) (mine : (s.step reports i).Got i path)
      (theirs : (s.step reports i).Got j path) : False := by
    have theirs := other differs theirs
    rcases own path mine with before | ⟨free, -⟩
    · exact differs (h.distinct j i path theirs before)
    · exact free (has_of_read (h.read j path theirs))
  constructor
  · intro j path got
    by_cases differs : j = i
    · subst differs
      rcases own path got with before | ⟨-, written⟩
      · exact kept path _ (h.read j path before)
      · exact written
    · exact kept path _ (h.read j path (other differs got))
  · intro j k path gotJ gotK
    by_cases first : j = i
    · subst first
      by_contra differs
      exact apart (Ne.symm differs) gotJ gotK
    · by_cases second : k = i
      · subst second
        exact absurd gotJ fun gotJ => apart first gotK gotJ
      · exact h.distinct j k path (other first gotJ) (other second gotK)

theorem sound_run (reports : Fin n → Report) (a : Archive) (w : List (Fin n)) :
    ((start a).run reports w).Sound reports :=
  run_induction (fun _ i h => h.step i) ⟨nofun, nofun⟩ w

/-! ### Copies of one name -/

/-- The callers that have written. -/
def winners (s : Writers n) : Finset (Fin n) :=
  Finset.univ.filter fun i => (s.progress i).isWritten

theorem mem_winners {i : Fin n} : i ∈ s.winners ↔ ∃ path, s.Got i path := by
  rw [winners, Finset.mem_filter, and_iff_right (Finset.mem_univ i)]
  exact Archive.Progress.isWritten_iff

/-- The callers have written the first copies of one name, and no others are taken. -/
structure Filled (a : Archive) (r : Report) (s : Writers n) : Prop where
  directory : s.archive.directory = a.directory
  opens : ∃ dir, s.archive.disk.Opens s.archive.directory dir
  taken : ∀ m, s.archive.Taken r m ↔ m < s.winners.card
  trying : ∀ i copy, s.progress i = .trying copy → copy ≤ s.winners.card
  owned : ∀ m < s.winners.card, ∃ i, s.Got i (a.pathOf r m)
  named : ∀ i path, s.Got i path → ∃ m < s.winners.card, path = a.pathOf r m

/-- Nothing has happened to the archive, and no caller has made an attempt. -/
structure Idle (a : Archive) (s : Writers n) : Prop where
  archive : s.archive = a
  waiting : ∀ i, s.progress i = .begun ∨ ∃ e, s.progress i = .ended (.error e)

theorem not_got (none_won : s.winners = ∅) (i : Fin n) (path : Path) : ¬ s.Got i path := by
  intro got
  have member := mem_winners.mpr ⟨path, got⟩
  rw [none_won] at member
  exact Finset.notMem_empty i member

theorem winners_of_idle (h : s.Idle a) : s.winners = ∅ := by
  rw [Finset.eq_empty_iff_forall_notMem]
  intro i member
  obtain ⟨path, got⟩ := mem_winners.mp member
  rw [Got] at got
  rcases h.waiting i with begun | ⟨e, failed⟩
  · rw [begun] at got
    cases got
  · rw [failed] at got
    cases got

theorem got_step_iff {i j : Fin n} (other : j ≠ i) :
    (s.step reports i).Got j path ↔ s.Got j path := by
  rw [Got, Got, progress_step_of_ne other]

/-- A step after which its caller has written just if it had before leaves the winners as they are. -/
theorem winners_step {i : Fin n} (same : i ∈ (s.step reports i).winners ↔ i ∈ s.winners) :
    (s.step reports i).winners = s.winners := by
  ext j
  by_cases own : j = i
  · rw [own, same]
  · rw [mem_winners, mem_winners]
    exact exists_congr fun path => got_step_iff own

theorem winners_step_of_got {i : Fin n} (got : (s.step reports i).Got i path) :
    (s.step reports i).winners = insert i s.winners := by
  ext j
  rw [Finset.mem_insert]
  by_cases own : j = i
  · rw [own, mem_winners]
    exact ⟨fun _ => .inl rfl, fun _ => ⟨path, got⟩⟩
  · rw [mem_winners, mem_winners, or_iff_right own]
    exact exists_congr fun path => got_step_iff own

/-- A step that writes nothing, and takes its caller no further than to the first free copy. -/
theorem Filled.pass {i : Fin n} {before next : Progress} (h : s.Filled a r)
    (archive : (s.step reports i).archive = s.archive) (was : s.progress i = before)
    (is : (s.step reports i).progress i = next)
    (got : ∀ path, next = .ended (.ok path) ↔ before = .ended (.ok path))
    (tries : ∀ copy, next = .trying copy → copy ≤ s.winners.card) :
    (s.step reports i).Filled a r := by
  have same (j : Fin n) (path : Path) : (s.step reports i).Got j path ↔ s.Got j path := by
    by_cases own : j = i
    · rw [own, Got, Got, was, is]
      exact got path
    · exact got_step_iff own
  have winners : (s.step reports i).winners = s.winners := by
    apply winners_step
    rw [mem_winners, mem_winners]
    exact exists_congr (same i)
  constructor
  · rw [archive]
    exact h.directory
  · rw [archive]
    exact h.opens
  · rw [archive, winners]
    exact h.taken
  · intro j copy trying
    rw [winners]
    by_cases own : j = i
    · subst own
      exact tries copy (is.symm.trans trying)
    · rw [progress_step_of_ne own] at trying
      exact h.trying j copy trying
  · rw [winners]
    intro m below
    obtain ⟨j, got⟩ := h.owned m below
    exact ⟨j, (same j _).mpr got⟩
  · rw [winners]
    intro j path got
    exact h.named j path ((same j path).mp got)

/-- A step that writes a copy: it is the first that is free, as a caller that comes to it has found all
before it taken. -/
theorem Filled.create {i : Fin n} {copy : Nat} (h : s.Filled a r)
    (names : (reports i).Namesake r) (tries : s.progress i = .trying copy)
    (created : s.archive.createCopy (reports i) copy = .ok (s.step reports i).archive)
    (got : (s.step reports i).Got i (s.archive.pathOf (reports i) copy)) :
    (s.step reports i).Filled a r := by
  obtain ⟨dir, opens⟩ := h.opens
  have grows := Archive.grows_createCopy created
  have named : s.archive.pathOf (reports i) copy = a.pathOf r copy := by
    rw [s.archive.pathOf_of_namesake names, Archive.pathOf_of_directory h.directory]
  rw [named] at got
  have free : ¬ s.archive.Taken r copy := by
    rw [← Archive.taken_of_namesake names]
    exact Archive.not_taken_of_created created
  have last : copy = s.winners.card := by
    have reached := h.trying i copy tries
    rw [h.taken] at free
    omega
  have searching : i ∉ s.winners := by
    intro member
    obtain ⟨path, written⟩ := mem_winners.mp member
    rw [Got, tries] at written
    cases written
  have card : (s.step reports i).winners.card = s.winners.card + 1 := by
    rw [winners_step_of_got got, Finset.card_insert_of_notMem searching]
  have differs {j : Fin n} {path : Path} (written : s.Got j path) : j ≠ i := by
    rintro rfl
    exact searching (mem_winners.mpr ⟨path, written⟩)
  constructor
  · exact grows.directory.trans h.directory
  · exact ⟨dir, grows.directory ▸ opens.mono grows.disk⟩
  · intro m
    rw [← Archive.taken_of_namesake names, Archive.taken_createCopy opens created,
      Archive.taken_of_namesake names, h.taken, card]
    omega
  · intro j copy' tries'
    rw [card]
    by_cases own : j = i
    · subst own
      rw [got] at tries'
      cases tries'
    · rw [progress_step_of_ne own] at tries'
      exact Nat.le_succ_of_le (h.trying j copy' tries')
  · intro m below
    rw [card] at below
    by_cases new : m = copy
    · exact ⟨i, new ▸ got⟩
    · obtain ⟨j, written⟩ := h.owned m (by omega)
      exact ⟨j, (got_step_iff (differs written)).mpr written⟩
  · intro j path written
    rw [card]
    by_cases own : j = i
    · subst own
      rw [Got, got] at written
      cases written
      exact ⟨copy, by omega, rfl⟩
    · obtain ⟨m, below, path⟩ := h.named j path ((got_step_iff own).mp written)
      exact ⟨m, by omega, path⟩

theorem Filled.step (h : s.Filled a r) (names : ∀ i, (reports i).Namesake r) (i : Fin n) :
    (s.step reports i).Filled a r := by
  obtain ⟨dir, opens⟩ := h.opens
  have course := course_step reports s i
  -- Every course but the last leaves the archive and what the caller has got.
  generalize was : s.progress i = before at course
  generalize archive : (s.step reports i).archive = after at course
  generalize is : (s.step reports i).progress i = next at course
  cases course with
  | rests result => exact h.pass archive was is (fun _ => .rfl) nofun
  | prepares found =>
    rw [Archive.prepare_of_opens opens] at found
    cases found
    refine h.pass archive was is (fun _ => ⟨nofun, nofun⟩) fun copy tries => ?_
    cases tries
    exact Nat.zero_le _
  | refused failed => exact h.pass archive was is (fun _ => ⟨nofun, nofun⟩) nofun
  | passes taken =>
    rw [Archive.taken_of_namesake (names i), h.taken] at taken
    refine h.pass archive was is (fun _ => ⟨nofun, nofun⟩) fun copy tries => ?_
    cases tries
    exact taken
  | gives copy e => exact h.pass archive was is (fun _ => ⟨nofun, nofun⟩) nofun
  | creates created =>
    subst archive
    exact h.create (names i) was created is

/-- The first step that finds the directory or creates it finds no copy there. -/
theorem Idle.step (h : s.Idle a) (clear : a.Clear r) (i : Fin n) :
    (s.step reports i).Idle a ∨ (s.step reports i).Filled a r := by
  have course := course_step reports s i
  rw [h.archive] at course
  have others {j : Fin n} (other : j ≠ i) : (s.step reports i).progress j = .begun ∨
      ∃ e, (s.step reports i).progress j = .ended (.error e) := by
    rw [progress_step_of_ne other]
    exact h.waiting j
  have idle (archive : (s.step reports i).archive = a)
      (failed : ∃ e, (s.step reports i).progress i = .ended (.error e)) : (s.step reports i).Idle a := by
    refine ⟨archive, fun j => ?_⟩
    by_cases own : j = i
    · exact .inr (own ▸ failed)
    · exact others own
  generalize archive : (s.step reports i).archive = after at course
  generalize is : (s.step reports i).progress i = next at course
  rcases h.waiting i with was | ⟨e, was⟩
  · rw [was] at course
    cases course with
    | refused failed => exact .inl (idle archive ⟨_, is⟩)
    | prepares found =>
      have none_won : (s.step reports i).winners = ∅ := by
        rw [← winners_of_idle h]
        apply winners_step
        simp [mem_winners, Got, was, is]
      obtain ⟨dir, opens⟩ := Archive.opens_prepare found
      refine .inr ⟨?_, ⟨dir, archive ▸ opens⟩, fun m => ?_, fun j copy tries => ?_, fun m below => ?_,
        fun j path got => absurd got (not_got none_won j path)⟩
      · rw [archive]
        exact (Archive.prepare_eq found).2
      · rw [archive, none_won]
        exact iff_of_false (clear _ found m) (Nat.not_lt_zero m)
      · by_cases own : j = i
        · subst own
          rw [is] at tries
          cases tries
          exact Nat.zero_le _
        · rcases others own with begun | ⟨e, ended⟩
          · rw [begun] at tries
            cases tries
          · rw [ended] at tries
            cases tries
      · rw [none_won] at below
        exact absurd below (Nat.not_lt_zero m)
  · rw [was] at course
    cases course with
    | rests result => exact .inl (idle archive ⟨e, is⟩)

theorem idle_start (a : Archive) : (start a : Writers n).Idle a := ⟨rfl, fun _ => .inl rfl⟩

theorem filled_run (names : ∀ i, (reports i).Namesake r) (clear : a.Clear r) (w : List (Fin n)) :
    ((start a).run reports w).Idle a ∨ ((start a).run reports w).Filled a r := by
  refine run_induction (P := fun s => s.Idle a ∨ s.Filled a r) (fun s i h => ?_)
    (.inl (idle_start a)) w
  rcases h with idle | filled
  · exact idle.step clear i
  · exact .inr (filled.step names i)

/-- The callers that have written have the first copies, one each. -/
theorem got_iff_of_namesakes (names : ∀ i, (reports i).Namesake r) (clear : a.Clear r)
    (w : List (Fin n)) (m : Nat) :
    (∃ i, ((start a).run reports w).Got i (a.pathOf r m)) ↔
      m < ((start a).run reports w).winners.card := by
  rcases filled_run names clear w with idle | filled
  · rw [winners_of_idle idle, Finset.card_empty]
    refine iff_of_false ?_ (Nat.not_lt_zero m)
    rintro ⟨i, got⟩
    exact not_got (winners_of_idle idle) i _ got
  · constructor
    · rintro ⟨i, got⟩
      obtain ⟨m', below, same⟩ := filled.named i _ got
      rwa [a.pathOf_injective r same]
    · exact filled.owned m

theorem grows_run (reports : Fin n → Report) (a : Archive) (w : List (Fin n)) :
    a.Grows ((start a).run reports w).archive :=
  run_induction (P := fun s => a.Grows s.archive)
    (fun s i grows => grows.trans (grows_step reports s i)) (.refl a) w

/-- Whatever the order of their steps, no two callers are given one path. What was there stays, and so do
the reports that are written: each is a new file at a path where nothing was. Callers whose reports have
one name, with no copy there at first, have at every moment the first copies, as many as have written, so
once all have written the copies number as many as the callers. -/
theorem writers_lose_no_report (a : Archive) (reports : Fin n → Report) (w : List (Fin n)) :
    let s := (start a).run reports w
    (∀ i j path, s.Got i path → s.Got j path → i = j) ∧
    (∀ i path, s.Got i path → s.archive.disk.read path = .ok (reports i).text.toUTF8) ∧
    a.disk.Extends s.archive.disk ∧
    (∀ i, s.archive.disk.Extends (s.step reports i).archive.disk ∧
      ∀ path, (s.step reports i).Got i path → s.Got i path ∨ ¬ s.archive.disk.Has path) ∧
    ∀ r, (∀ i, (reports i).Namesake r) → a.Clear r →
      (∀ i path, s.Got i path → ∃ m, path = a.pathOf r m) ∧
      (∀ m, (∃ i, s.Got i (a.pathOf r m)) ↔ m < s.winners.card) ∧
      ((∀ i, ∃ path, s.Got i path) → ∀ m, (∃ i, s.Got i (a.pathOf r m)) ↔ m < n) := by
  intro s
  have sound := sound_run reports a w
  refine ⟨sound.distinct, sound.read, (grows_run reports a w).disk, fun i => ?_,
    fun r names clear => ?_⟩
  · refine ⟨(grows_step reports s i).disk, fun path got => ?_⟩
    have course := course_step reports s i
    rw [Got] at got
    rw [got] at course
    rcases course.fresh with before | ⟨free, -⟩
    · exact .inl before
    · exact .inr free
  · have copies := got_iff_of_namesakes names clear w
    refine ⟨fun i path got => ?_, copies, fun all m => ?_⟩
    · rcases filled_run names clear w with idle | filled
      · exact absurd got (not_got (winners_of_idle idle) i path)
      · obtain ⟨m, -, same⟩ := filled.named i path got
        exact ⟨m, same⟩
    · have everyone : s.winners = Finset.univ :=
        Finset.eq_univ_iff_forall.mpr fun i => mem_winners.mpr (all i)
      rw [copies m, everyone, Finset.card_univ, Fintype.card_fin]

/-- A directory with one file that is no report. -/
def lettered : Archive :=
  ⟨.ofText "out", ⟨[([Text.Utf8.encode "out", Text.Utf8.encode "old"], .file .empty),
    ([Text.Utf8.encode "out"], .directory false)], []⟩⟩

/-- Reports of two programs whose files have one name. -/
def twoBlanks : Fin 2 → Report := ![Archive.blank, ⟨"k", 1, 4, 2, []⟩]

/-- Two callers look for the directory, the second is the first to make an attempt, and the first goes on
to the next copy. -/
theorem two_writers_lose_no_report :
    let r := Archive.blank
    let s := (start lettered).run twoBlanks [0, 1, 1, 0, 0]
    (∀ i, (twoBlanks i).Namesake r) ∧ lettered.Clear r ∧ s.Got 0 (lettered.pathOf r 1) ∧
      s.Got 1 (lettered.pathOf r 0) ∧
      (∀ i j path, s.Got i path → s.Got j path → i = j) ∧
      ∀ m, (∃ i, s.Got i (lettered.pathOf r m)) ↔ m < 2 := by
  intro r s
  have names : ∀ i, (twoBlanks i).Namesake r := by
    intro i
    match i with
    | 0 => exact ⟨rfl, rfl, rfl⟩
    | 1 => exact ⟨by decide +kernel, rfl, rfl⟩
  have clear : lettered.Clear r := by
    have opens : lettered.disk.Opens lettered.directory [Text.Utf8.encode "out"] := ⟨rfl, rfl⟩
    rw [Archive.clear_iff_of_opens opens]
    intro m taken
    have entry := FileTree.mem_entries (Archive.node?_of_taken opens taken)
    have single : lettered.disk.entries [Text.Utf8.encode "out"] =
        [[Text.Utf8.encode "out", Text.Utf8.encode "old"]] := by
      decide +kernel
    rw [single, List.mem_singleton, List.singleton_append] at entry
    have name : r.copyBytes m = Text.Utf8.encode "old" := by simpa using entry
    have short : (Text.Utf8.encode "old").length = 3 := by decide +kernel
    have long := r.five_le_length_copyBytes m
    rw [name, short] at long
    omega
  have first : s.Got 0 (lettered.pathOf r 1) := by
    show ((start lettered).run twoBlanks [0, 1, 1, 0, 0]).progress 0 =
      .ended (.ok (lettered.pathOf Archive.blank 1))
    decide +kernel
  have second : s.Got 1 (lettered.pathOf r 0) := by
    show ((start lettered).run twoBlanks [0, 1, 1, 0, 0]).progress 1 =
      .ended (.ok (lettered.pathOf Archive.blank 0))
    decide +kernel
  have all : ∀ i, ∃ path, s.Got i path := by
    intro i
    match i with
    | 0 => exact ⟨_, first⟩
    | 1 => exact ⟨_, second⟩
  obtain ⟨distinct, -, -, -, copies⟩ := writers_lose_no_report lettered twoBlanks [0, 1, 1, 0, 0]
  exact ⟨names, clear, first, second, distinct, (copies r names clear).2.2 all⟩

end Writers

end SimdProfile

import SimdProfile.Proofs.Archive.Writers

/-!
# Archives that come of one

Whatever reports are written, an archive keeps the directory it has or first creates. So what a later
report is answered is known from the archive at the beginning, once it is known which copy is the first
that is free.
-/

namespace SimdProfile

namespace FileTree

variable {t after : FileTree} {dir loc : Location} {path : Path}

/-- Whether anything can be created in a directory stays as it is. -/
theorem Opens.isSealed_eq (h : t.Opens path dir) (more : t.Extends after) :
    after.isSealed dir = t.isSealed dir := by
  have there : ∃ n, t.node? dir = some n := by
    have found := h.isDirectory
    unfold requireDirectory at found
    cases node : t.node? dir with
    | none =>
      rw [node] at found
      cases found
    | some n => exact ⟨n, rfl⟩
  obtain ⟨n, node⟩ := there
  rw [isSealed, isSealed, node, more.nodes dir n node]

end FileTree

namespace Archive

variable {base a prepared : Archive} {r s : Report} {dir : Location} {n : Nat}

/-- What comes of an archive by writing reports: the archive itself, or one with the directory and
more. -/
def Descends (base a : Archive) : Prop :=
  a = base ∨ ∃ prepared, base.prepare = .ok prepared ∧ prepared.Grows a

/-- What a report is answered whose search ends at this copy. -/
def verdict (a : Archive) (r : Report) (n : Nat) : Except Error Path := do
  let prepared ← a.prepare
  (·.2) <$> prepared.createAt r n

/-- An archive with its directory prepared writes as it would have before. -/
theorem write_prepared (found : base.prepare = .ok prepared) (r : Report) :
    base.write r = prepared.write r := by
  obtain ⟨dir, opens⟩ := opens_prepare found
  rw [write, write, found, prepare_of_opens opens]

theorem Descends.write (h : base.Descends a) (r : Report) : base.Descends (a.write r).1 := by
  rcases h with rfl | ⟨prepared, found, grows⟩
  · cases found : a.prepare with
    | error e =>
      rw [write_of_refused found]
      exact .inl rfl
    | ok prepared =>
      rw [write_prepared found]
      exact .inr ⟨prepared, found, grows_write prepared r⟩
  · exact .inr ⟨prepared, found, grows.trans (grows_write a r)⟩

/-- What the attempt at a free copy comes to in a directory. -/
def ruling (a : Archive) (dir : Location) (r : Report) (n : Nat) : Except Error Path :=
  if maxCopy < n then .error (.reportIo (a.pathOf r maxCopy) .alreadyExists)
  else
    match FileTree.child dir (a.pathOf r n) (r.copyBytes n) with
    | .error fault => .error (.reportIo (a.pathOf r n) fault)
    | .ok _ =>
      if a.disk.isSealed dir then .error (.reportIo (a.pathOf r n) .permissionDenied)
      else .ok (a.pathOf r n)

theorem createAt_result (opens : a.disk.Opens a.directory dir) (free : ¬ a.Taken r n) :
    (·.2) <$> a.createAt r n = a.ruling dir r n := by
  unfold createAt ruling
  by_cases beyond : maxCopy < n
  · rw [if_pos beyond, if_pos beyond]
    rfl
  · rw [if_neg beyond, if_neg beyond]
    have leads := resolve_pathOf opens r n
    cases located : FileTree.child dir (a.pathOf r n) (r.copyBytes n) with
    | error fault =>
      have refused : a.createCopy r n = .error fault := by
        rw [createCopy, FileTree.createNew, leads, located]
        rfl
      rw [refused]
      rfl
    | ok loc =>
      rw [located] at leads
      have empty : a.disk.node? loc = none := by
        by_contra there
        exact free ⟨loc, leads, there⟩
      have above : loc.dropLast = dir := by rw [location_eq opens leads, List.dropLast_concat]
      rw [createCopy, FileTree.createNew_of_free leads empty, above]
      cases a.disk.isSealed dir <;> rfl

/-- The ruling stays, whatever is written. -/
theorem ruling_of_grows (opens : prepared.disk.Opens prepared.directory dir) (grows : prepared.Grows a)
    (r : Report) (n : Nat) : a.ruling dir r n = prepared.ruling dir r n := by
  rw [ruling, ruling, opens.isSealed_eq grows.disk, pathOf_of_directory grows.directory,
    pathOf_of_directory grows.directory]

theorem ruling_of_namesake (names : r.Namesake s) (a : Archive) (dir : Location) (n : Nat) :
    a.ruling dir r n = a.ruling dir s n := by
  rw [ruling, ruling, a.pathOf_of_namesake names, a.pathOf_of_namesake names, names.copyBytes_eq]

theorem verdict_of_refused {e : Error} (refused : base.prepare = .error e) (r : Report) (n : Nat) :
    base.verdict r n = .error e := by
  rw [verdict, refused]
  rfl

theorem verdict_of_prepared (found : base.prepare = .ok prepared) (r : Report) (n : Nat) :
    base.verdict r n = (·.2) <$> prepared.createAt r n := by
  rw [verdict, found]
  rfl

/-- A report is answered as it would have been at the beginning, had its search come to this copy. -/
theorem Descends.result_eq (h : base.Descends a) (r : Report) :
    ∃ n, (a.write r).2.1 = base.verdict r n := by
  cases found : base.prepare with
  | error e =>
    -- Without a directory nothing has been written.
    have same : a = base := by
      rcases h with same | ⟨prepared, other, -⟩
      · exact same
      · rw [found] at other
        cases other
    refine ⟨0, ?_⟩
    rw [same, write_of_refused found, verdict_of_refused found]
  | ok prepared =>
    obtain ⟨dir, opens⟩ := opens_prepare found
    have later : ∃ b, prepared.Grows b ∧ a.write r = b.write r := by
      rcases h with rfl | ⟨prepared', found', grows⟩
      · exact ⟨prepared, .refl _, write_prepared found r⟩
      · rw [found] at found'
        cases found'
        exact ⟨a, grows, rfl⟩
    obtain ⟨b, grows, written⟩ := later
    have opens' : b.disk.Opens b.directory dir := by
      rw [grows.directory]
      exact opens.mono grows.disk
    obtain ⟨n, search, -, searched⟩ := createUnique_eq opens' r
    have free : ¬ prepared.Taken r n := by
      intro taken
      apply search.free
      rw [Taken, pathOf_of_directory grows.directory]
      exact FileTree.Has.mono taken grows.disk
    refine ⟨n, ?_⟩
    calc
      (a.write r).2.1 = (b.write r).2.1 := by rw [written]
      _ = (·.2) <$> b.createAt r n := result_of_prepared (prepare_of_opens opens') searched
      _ = b.ruling dir r n := createAt_result opens' search.free
      _ = prepared.ruling dir r n := ruling_of_grows opens grows r n
      _ = (·.2) <$> prepared.createAt r n := (createAt_result opens free).symm
      _ = base.verdict r n := (verdict_of_prepared found r n).symm

/-- What a report is answered depends on its name alone. -/
theorem verdict_of_namesake (base : Archive) (names : r.Namesake s) (n : Nat) :
    base.verdict r n = base.verdict s n := by
  cases found : base.prepare with
  | error e => rw [verdict_of_refused found, verdict_of_refused found]
  | ok prepared =>
    obtain ⟨dir, opens⟩ := opens_prepare found
    rw [verdict_of_prepared found, verdict_of_prepared found]
    by_cases taken : prepared.Taken r n
    · have refused := createCopy_taken_iff.mpr taken
      have refused' := createCopy_taken_iff.mpr ((taken_of_namesake names).mp taken)
      rw [createAt, createAt, refused, refused', prepared.pathOf_of_namesake names,
        prepared.pathOf_of_namesake names]
    · have free : ¬ prepared.Taken s n := by rwa [← taken_of_namesake names]
      rw [createAt_result opens taken, createAt_result opens free]
      exact ruling_of_namesake names prepared dir n

end Archive

end SimdProfile

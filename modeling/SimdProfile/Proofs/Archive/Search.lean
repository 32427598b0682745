import Mathlib.Algebra.Group.Nat.Defs
import Mathlib.Data.List.Perm.Subperm
import Mathlib.Data.Nat.Find
import SimdProfile.Proofs.Archive
import SimdProfile.Proofs.FileTree.Directory
import SimdProfile.Proofs.Report.Name

/-!
# The search for a free copy

A report is written attempt by attempt: each tries to create one copy, and if its name is taken the next
attempt tries the next copy. As every copy that is passed over is an entry of the directory of its own,
the search ends after at most one attempt more than there are entries, at the first copy whose name is
free. What the report is answered depends on this copy alone, and the only file that is new is this copy.

All this is about file trees, where the directory can be searched and a descriptor is free: a name that is
taken is only ever answered by `alreadyExists`. Where another fault could be the answer, the search would
end at that copy with this fault.
-/

namespace SimdProfile

namespace Archive

variable {a after : Archive} {r : Report} {dir loc : Location} {n : Nat}

/-- Whether the name of a copy is taken. -/
def Taken (a : Archive) (r : Report) (copy : Nat) : Prop := a.disk.Has (a.pathOf r copy)

/-- The first copy of a report whose name is free. -/
structure FirstFree (a : Archive) (r : Report) (n : Nat) : Prop where
  free : ¬ a.Taken r n
  taken : ∀ m < n, a.Taken r m

/-- What is in the directory of the reports. -/
def entries (a : Archive) : List Location :=
  match a.disk.resolve a.directory with
  | .ok dir => a.disk.entries dir
  | .error _ => []

/-- In the directory of the reports a copy has the location of its name. -/
theorem resolve_pathOf (opens : a.disk.Opens a.directory dir) (r : Report) (n : Nat) :
    a.disk.resolve (a.pathOf r n) = FileTree.child dir (a.pathOf r n) (r.copyBytes n) :=
  opens.resolve_join (r.separator_not_mem_copyBytes n)
    (Nat.lt_of_lt_of_le (by decide) (r.five_le_length_copyBytes n))

/-- Copies are told apart by their paths. -/
theorem pathOf_injective (a : Archive) (r : Report) {m n : Nat} (same : a.pathOf r m = a.pathOf r n) :
    m = n := by
  have names := FileTree.eq_of_join_eq (r.separator_not_mem_copyBytes m)
    (r.separator_not_mem_copyBytes n) same
  exact r.copyBytes_injective (congrArg Path.bytes names)

theorem location_eq (opens : a.disk.Opens a.directory dir)
    (leads : a.disk.resolve (a.pathOf r n) = .ok loc) : loc = dir ++ [r.copyBytes n] := by
  rw [resolve_pathOf opens, FileTree.child] at leads
  split_ifs at leads
  exact (Except.ok.inj leads).symm

theorem node?_of_taken (opens : a.disk.Opens a.directory dir) (taken : a.Taken r n) :
    a.disk.node? (dir ++ [r.copyBytes n]) ≠ none := by
  obtain ⟨loc, leads, there⟩ := taken
  rwa [location_eq opens leads] at there

/-! ### The first free copy -/

/-- Copies that are taken are as many entries. -/
theorem le_entries (opens : a.disk.Opens a.directory dir) (taken : ∀ m < n, a.Taken r m) :
    n ≤ a.entries.length := by
  let locations := (List.range n).map fun m => dir ++ [r.copyBytes m]
  have distinct : locations.Nodup := by
    refine List.nodup_range.map fun m m' same => ?_
    exact r.copyBytes_injective (List.singleton_inj.mp (List.append_cancel_left same))
  have inside : locations ⊆ a.entries := by
    intro loc member
    obtain ⟨m, below, rfl⟩ := List.mem_map.mp member
    have there := node?_of_taken opens (taken m (List.mem_range.mp below))
    rw [entries, opens.leads]
    exact FileTree.mem_entries there
  have fewer := (distinct.subperm inside).length_le
  rwa [List.length_map, List.length_range] at fewer

theorem exists_firstFree (opens : a.disk.Opens a.directory dir) (r : Report) :
    ∃ n, a.FirstFree r n ∧ n ≤ a.entries.length := by
  have some_free : ∃ n, ¬ a.Taken r n := by
    by_contra none_free
    push Not at none_free
    have more := le_entries (n := a.entries.length + 1) opens fun m _ => none_free m
    omega
  classical
  have taken (m : Nat) (below : m < Nat.find some_free) : a.Taken r m :=
    not_not.mp (Nat.find_min some_free below)
  exact ⟨Nat.find some_free, ⟨Nat.find_spec some_free, taken⟩, le_entries opens taken⟩

/-! ### Attempts -/

theorem createCopy_taken_iff : a.createCopy r n = .error .alreadyExists ↔ a.Taken r n := by
  have created : a.disk.createNew (a.pathOf r n) r.text.toUTF8 = .error .alreadyExists ↔ a.Taken r n :=
    FileTree.createNew_taken_iff
  rw [← created, createCopy]
  cases a.disk.createNew (a.pathOf r n) r.text.toUTF8 with
  | error fault =>
    constructor <;> intro same <;> exact congrArg _ (Except.error.inj same)
  | ok disk => exact ⟨nofun, nofun⟩

theorem pathOf_of_createCopy (created : a.createCopy r n = .ok after) (s : Report) (m : Nat) :
    after.pathOf s m = a.pathOf s m := by
  rw [pathOf, pathOf, (createCopy_eq created).2]

/-- The attempt that ends a search. Beyond the largest number there are no copies. -/
def createAt (a : Archive) (r : Report) (copy : Nat) : Except Error (Archive × Path) :=
  if maxCopy < copy then .error (.reportIo (a.pathOf r maxCopy) .alreadyExists)
  else
    match a.createCopy r copy with
    | .ok after => .ok (after, a.pathOf r copy)
    | .error fault => .error (.reportIo (a.pathOf r copy) fault)

/-- Up to the largest number the attempt decides. -/
theorem createAt_eq (a : Archive) (r : Report) {copy : Nat} (valid : copy ≤ maxCopy) :
    a.createAt r copy =
      match a.createCopy r copy with
      | .ok after => .ok (after, a.pathOf r copy)
      | .error fault => .error (.reportIo (a.pathOf r copy) fault) :=
  if_neg (Nat.not_lt.mpr valid)

theorem createFrom_eq (search : a.FirstFree r n) {copy attempts : Nat} (start : copy ≤ n)
    (valid : copy ≤ maxCopy) (enough : n - copy < attempts) :
    a.createFrom r copy attempts = a.createAt r n := by
  induction attempts generalizing copy with
  | zero => omega
  | succ attempts ih =>
    rw [createFrom_succ]
    by_cases last : copy = n
    · subst last
      rw [a.createAt_eq r valid]
      cases attempt : a.createCopy r copy with
      | ok written =>
        show Except.ok (written, written.pathOf r copy) = _
        rw [pathOf_of_createCopy attempt]
      | error fault =>
        cases fault with
        | alreadyExists => exact absurd (createCopy_taken_iff.mp attempt) search.free
        | _ => rfl
    · rw [createCopy_taken_iff.mpr (search.taken copy (by omega))]
      by_cases more : copy < maxCopy
      · simp only [if_pos more]
        exact ih (by omega) (by omega) (by omega)
      · have exhausted : copy = maxCopy := by omega
        have beyond : maxCopy < n := by omega
        simp only [if_neg more]
        rw [createAt, if_pos beyond, exhausted]

/-- The search ends at the first free copy. -/
theorem createUnique_eq (opens : a.disk.Opens a.directory dir) (r : Report) :
    ∃ n, a.FirstFree r n ∧ n ≤ a.entries.length ∧ a.createUnique r = a.createAt r n := by
  obtain ⟨n, search, few⟩ := exists_firstFree opens r
  have nodes : a.entries.length ≤ a.disk.nodes.length := by
    have located : a.entries = a.disk.entries dir := by rw [entries, opens.leads]
    rw [located, FileTree.entries]
    have distinct := (List.dedup_sublist ((a.disk.nodes.map (·.1)).filter
      fun loc => loc ≠ [] ∧ loc.dropLast = dir)).length_le
    have chosen := List.length_filter_le (fun loc => loc ≠ [] ∧ loc.dropLast = dir)
      (a.disk.nodes.map (·.1))
    rw [List.length_map] at chosen
    exact Nat.le_trans distinct chosen
  have enough : n - 0 < a.disk.nodes.length + 1 := by omega
  exact ⟨n, search, few, createFrom_eq search (Nat.zero_le _) (Nat.zero_le _) enough⟩

/-! ### A search step by step -/

/-- How far a caller has come that writes a report. -/
inductive Progress where
  /-- The directory is still to be created. -/
  | begun
  /-- The next attempt is that at a copy. -/
  | trying (copy : Nat)
  | ended (result : Except Error Path)
  deriving DecidableEq

/-- One attempt at a copy. -/
def attempt (a : Archive) (r : Report) (copy : Nat) : Archive × Progress :=
  match a.createCopy r copy with
  | .ok after => (after, .ended (.ok (a.pathOf r copy)))
  | .error .alreadyExists =>
    if copy < maxCopy then (a, .trying (copy + 1))
    else (a, .ended (.error (.reportIo (a.pathOf r copy) .alreadyExists)))
  | .error fault => (a, .ended (.error (.reportIo (a.pathOf r copy) fault)))

/-- What a caller does next: it creates the directory or makes an attempt. -/
def advance (a : Archive) (r : Report) : Progress → Archive × Progress
  | .begun =>
    match a.prepare with
    | .ok prepared => (prepared, .trying 0)
    | .error e => (a, .ended (.error e))
  | .trying copy => a.attempt r copy
  | .ended result => (a, .ended result)

/-- Some steps of a caller, with no other caller in between. -/
def proceed (r : Report) : Nat → Archive × Progress → Archive × Progress
  | 0, s => s
  | steps + 1, s => proceed r steps (s.1.advance r s.2)

/-- The end of a search. -/
def settle (a : Archive) : Except Error (Archive × Path) → Archive × Progress
  | .ok (after, path) => (after, .ended (.ok path))
  | .error e => (a, .ended (.error e))

/-- What becomes of an attempt. -/
theorem attempt_eq (a : Archive) (r : Report) (copy : Nat) :
    a.attempt r copy =
      match a.createCopy r copy with
      | .ok after => (after, .ended (.ok (a.pathOf r copy)))
      | .error .alreadyExists =>
        if copy < maxCopy then (a, .trying (copy + 1))
        else (a, .ended (.error (.reportIo (a.pathOf r copy) .alreadyExists)))
      | .error fault => (a, .ended (.error (.reportIo (a.pathOf r copy) fault))) := by
  rfl

theorem attempt_of_taken {copy : Nat} (taken : a.Taken r copy) (more : copy < maxCopy) :
    a.attempt r copy = (a, .trying (copy + 1)) := by
  rw [attempt_eq, createCopy_taken_iff.mpr taken]
  simp only [if_pos more]

theorem attempt_of_free {copy : Nat} (free : ¬ a.Taken r copy) (valid : copy ≤ maxCopy) :
    a.attempt r copy = a.settle (a.createAt r copy) := by
  rw [attempt_eq, a.createAt_eq r valid]
  cases attempt : a.createCopy r copy with
  | ok after => rfl
  | error fault =>
    cases fault with
    | alreadyExists => exact absurd (createCopy_taken_iff.mp attempt) free
    | _ => rfl

/-- A search makes one attempt for every copy up to the first that is free. -/
theorem proceed_eq (search : a.FirstFree r n) (valid : n ≤ maxCopy) {copy left : Nat}
    (start : copy + left = n) :
    proceed r (left + 1) (a, .trying copy) = a.settle (a.createAt r n) := by
  induction left generalizing copy with
  | zero =>
    have last : copy = n := start
    rw [last]
    exact attempt_of_free search.free valid
  | succ left ih =>
    have below : copy < n := by omega
    have more : copy < maxCopy := by omega
    rw [proceed, advance, attempt_of_taken (search.taken copy below) more]
    exact ih (by omega)

theorem write_of_refused {e : Error} (refused : a.prepare = .error e) :
    a.write r = (a, .error e, []) := by
  rw [write, refused]

/-- What is written is what the search in the directory comes to. -/
theorem write_of_prepared {prepared : Archive} (found : a.prepare = .ok prepared)
    (searched : prepared.createUnique r = prepared.createAt r n) :
    prepared.settle (prepared.createAt r n) = ((a.write r).1, .ended (a.write r).2.1) := by
  rw [write, found]
  simp only [searched]
  cases prepared.createAt r n <;> rfl

/-- The result of a report is that of the attempt the search ends with. -/
theorem result_of_prepared {prepared : Archive} (found : a.prepare = .ok prepared)
    (searched : prepared.createUnique r = prepared.createAt r n) :
    (a.write r).2.1 = (·.2) <$> prepared.createAt r n := by
  rw [write, found]
  simp only [searched]
  cases prepared.createAt r n <;> rfl

theorem prepare_error {e : Error} (refused : a.prepare = .error e) :
    ∃ fault, a.disk.createDirectories a.directory = .error fault ∧
      e = .reportIo a.directory fault := by
  unfold prepare at refused
  split at refused
  · cases refused
  · next fault created =>
    cases refused
    exact ⟨fault, created, rfl⟩

/-- The directory of the reports, once it was created. -/
theorem opens_prepare {prepared : Archive} (found : a.prepare = .ok prepared) :
    ∃ dir, prepared.disk.Opens prepared.directory dir := by
  obtain ⟨created, same⟩ := prepare_eq found
  rw [same]
  exact FileTree.opens_createDirectories created

/-- A report is written to the first copy whose name is free, which at most one attempt more than there
are entries in the directory finds. This file alone is new, and it holds the text of the report. If the
directory cannot be created, or this copy cannot, the result names it, and no file has changed. As in every
file tree, the directory can be searched and a descriptor is free, so that `alreadyExists` is the only
answer to a name that is taken. -/
theorem report_goes_to_first_free_copy (a : Archive) (r : Report)
    (room : ∀ prepared, a.prepare = .ok prepared → prepared.entries.length < 2 ^ 32) :
    (∃ fault, a.disk.createDirectories a.directory = .error fault ∧
      (a.write r).2.1 = .error (.reportIo a.directory fault) ∧
        a.disk.SameFiles (a.write r).1.disk) ∨
    ∃ prepared n, a.prepare = .ok prepared ∧ prepared.FirstFree r n ∧
      n ≤ prepared.entries.length ∧
      proceed r (n + 1) (prepared, .trying 0) = ((a.write r).1, .ended (a.write r).2.1) ∧
      ((a.write r).2.1 = .ok (a.pathOf r n) ∧
          a.disk.Gains (a.write r).1.disk (a.pathOf r n) r.text.toUTF8 ∨
        ∃ fault, (a.write r).2.1 = .error (.reportIo (a.pathOf r n) fault) ∧
          a.disk.SameFiles (a.write r).1.disk) := by
  cases found : a.prepare with
  | error e =>
    obtain ⟨fault, created, rfl⟩ := prepare_error found
    rw [write_of_refused found]
    exact .inl ⟨fault, created, rfl, (FileTree.Furnishes.refl _).sameFiles⟩
  | ok prepared =>
    obtain ⟨dir, opens⟩ := opens_prepare found
    obtain ⟨n, search, few, searched⟩ := createUnique_eq opens r
    have valid : n ≤ maxCopy := by
      have fewer := room prepared found
      show n ≤ 0xffffffff
      omega
    have furnished := FileTree.furnishes_createDirectories (prepare_eq found).1
    have named : prepared.pathOf r n = a.pathOf r n := by
      rw [pathOf, pathOf, (prepare_eq found).2]
    have written := write_of_prepared found searched
    refine .inr ⟨prepared, n, rfl, search, few, ?_, ?_⟩
    · exact (proceed_eq search valid (Nat.zero_add n)).trans written
    · rw [prepared.createAt_eq r valid, named] at written
      cases attempt : prepared.createCopy r n with
      | ok after =>
        rw [attempt] at written
        obtain ⟨archive, result⟩ := Prod.mk.inj written
        rw [← archive, ← Progress.ended.inj result, ← named]
        exact .inl ⟨rfl, furnished.gains (createCopy_eq attempt).1⟩
      | error fault =>
        rw [attempt] at written
        obtain ⟨archive, result⟩ := Prod.mk.inj written
        rw [← archive, ← Progress.ended.inj result]
        exact .inr ⟨fault, rfl, furnished.sameFiles⟩

/-- A directory with the first, the second and the fourth copy of a report, of which the second is not a
file, and with a file whose name only looks like that of a copy. -/
def holed : Archive :=
  let entry (name : String) : Location := [Text.Utf8.encode "out", Text.Utf8.encode name]
  ⟨.ofText "out", ⟨[(entry "k.1.2.json", .file .empty), (entry "k.1.2.1.json", .directory false),
    (entry "k.1.2.02.json", .file .empty), (entry "k.1.2.3.json", .file .empty),
    ([Text.Utf8.encode "out"], .directory false)], []⟩⟩

/-- A report of no region. -/
def blank : Report := ⟨"src/k", 1, 8, 2, []⟩

theorem report_goes_to_the_hole :
    holed.prepare = .ok holed ∧ holed.entries.length = 4 ∧ holed.FirstFree blank 2 ∧
      proceed blank 3 (holed, .trying 0) =
        ((holed.write blank).1, .ended (.ok (holed.pathOf blank 2))) ∧
      holed.disk.Gains (holed.write blank).1.disk (holed.pathOf blank 2) blank.text.toUTF8 := by
  have there : holed.prepare = .ok holed := rfl
  have four : holed.entries.length = 4 := by decide +kernel
  have room : ∀ prepared, holed.prepare = .ok prepared → prepared.entries.length < 2 ^ 32 := by
    intro prepared found
    rw [there] at found
    cases found
    omega
  have written : (holed.write blank).2.1 = .ok (holed.pathOf blank 2) := by rfl
  rcases report_goes_to_first_free_copy holed blank room with
    ⟨fault, -, failed, -⟩ | ⟨prepared, n, found, search, -, steps, ⟨result, gains⟩ | ⟨fault, failed, -⟩⟩
  · rw [written] at failed
    cases failed
  · rw [there] at found
    cases found
    rw [written] at result steps
    have second := pathOf_injective holed blank (Except.ok.inj result)
    subst second
    exact ⟨there, four, search, steps, gains⟩
  · rw [written] at failed
    cases failed

end Archive

end SimdProfile

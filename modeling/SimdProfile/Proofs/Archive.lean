import SimdProfile.Proofs.FileTree
import SimdProfile.Report.Archive

/-!
# What an archive writes

A report that is written is found again: its path is that of a copy, and the file there holds its text.
What was written before stays as it is.
-/

namespace SimdProfile

namespace Archive

variable {a after : Archive} {r : Report} {path : Path}

/-- The archive has the same directory, and everything is still there. -/
structure Grows (a after : Archive) : Prop where
  directory : after.directory = a.directory
  disk : a.disk.Extends after.disk

theorem Grows.refl (a : Archive) : a.Grows a := ⟨rfl, .refl _⟩

theorem Grows.trans {middle : Archive} (first : a.Grows middle) (second : middle.Grows after) :
    a.Grows after :=
  ⟨second.directory.trans first.directory, first.disk.trans second.disk⟩

/-- Every file is still there with the same contents. -/
theorem Grows.files (h : a.Grows after) : a.disk.Keeps after.disk := h.disk.keeps

theorem createCopy_eq {copy : Nat} (created : a.createCopy r copy = .ok after) :
    a.disk.createNew (a.pathOf r copy) r.text.toUTF8 = .ok after.disk ∧
      after.directory = a.directory := by
  unfold createCopy at created
  cases file : a.disk.createNew (a.pathOf r copy) r.text.toUTF8 with
  | error e =>
    rw [file] at created
    cases created
  | ok disk =>
    rw [file] at created
    cases created
    exact ⟨rfl, rfl⟩

theorem grows_createCopy {copy : Nat} (created : a.createCopy r copy = .ok after) : a.Grows after :=
  ⟨(createCopy_eq created).2, FileTree.extends_createNew (createCopy_eq created).1⟩

/-- One attempt and those after it. -/
theorem createFrom_succ (a : Archive) (r : Report) (copy attempts : Nat) :
    a.createFrom r copy (attempts + 1) =
      match a.createCopy r copy with
      | .ok a => .ok (a, a.pathOf r copy)
      | .error .alreadyExists =>
        if copy < maxCopy then a.createFrom r (copy + 1) attempts
        else .error (.reportIo (a.pathOf r copy) .alreadyExists)
      | .error fault => .error (.reportIo (a.pathOf r copy) fault) := by
  rfl

/-- What is created is a copy of the report. -/
theorem createCopy_of_createFrom {copy attempts : Nat}
    (created : a.createFrom r copy attempts = .ok (after, path)) :
    ∃ n, path = a.pathOf r n ∧ a.createCopy r n = .ok after := by
  induction attempts generalizing copy with
  | zero => cases created
  | succ attempts ih =>
    rw [createFrom_succ] at created
    cases attempt : a.createCopy r copy with
    | ok written =>
      rw [attempt] at created
      cases created
      refine ⟨copy, ?_, attempt⟩
      rw [pathOf, pathOf, (grows_createCopy attempt).directory]
    | error fault =>
      rw [attempt] at created
      cases fault with
      | alreadyExists =>
        by_cases more : copy < maxCopy
        · simp only [if_pos more] at created
          exact ih created
        · simp only [if_neg more] at created
          nomatch created
      | _ => nomatch created

theorem prepare_eq (prepared : a.prepare = .ok after) :
    a.disk.createDirectories a.directory = .ok after.disk ∧ after.directory = a.directory := by
  unfold prepare at prepared
  split at prepared
  · next disk created =>
    cases prepared
    exact ⟨created, rfl⟩
  · cases prepared

theorem grows_prepare (prepared : a.prepare = .ok after) : a.Grows after :=
  ⟨(prepare_eq prepared).2, (FileTree.furnishes_createDirectories (prepare_eq prepared).1).grows⟩

/-- To write a report takes nothing away that was written before. -/
theorem grows_write (a : Archive) (r : Report) : a.Grows (a.write r).1 := by
  unfold write
  split
  · exact .refl a
  · next prepared found =>
    split
    · exact grows_prepare found
    · next written path created =>
      obtain ⟨n, -, copied⟩ := createCopy_of_createFrom created
      exact (grows_prepare found).trans (grows_createCopy copied)

/-- A report that is written has the path of a copy, and the file there is its text. -/
theorem read_of_write (written : (a.write r).2.1 = .ok path) :
    (∃ n, path = a.pathOf r n) ∧ (a.write r).1.disk.read path = .ok r.text.toUTF8 := by
  unfold write at written ⊢
  split at written
  · cases written
  · next prepared found =>
    split at written
    · cases written
    · next after path' created =>
      cases written
      obtain ⟨n, named, copied⟩ := createCopy_of_createFrom created
      refine ⟨⟨n, ?_⟩, ?_⟩
      · rw [named, pathOf, pathOf, (grows_prepare found).directory]
      · rw [named]
        exact FileTree.read_of_createNew (createCopy_eq copied).1

theorem createFrom_error {copy attempts : Nat} {e : Error}
    (failed : a.createFrom r copy attempts = .error e) : ∃ path fault, e = .reportIo path fault := by
  induction attempts generalizing copy with
  | zero =>
    cases failed
    exact ⟨_, _, rfl⟩
  | succ attempts ih =>
    rw [createFrom_succ] at failed
    cases attempt : a.createCopy r copy with
    | ok written =>
      rw [attempt] at failed
      cases failed
    | error fault =>
      rw [attempt] at failed
      cases fault with
      | alreadyExists =>
        by_cases more : copy < maxCopy
        · simp only [if_pos more] at failed
          exact ih failed
        · simp only [if_neg more] at failed
          cases failed
          exact ⟨_, _, rfl⟩
      | _ =>
        cases failed
        exact ⟨_, _, rfl⟩

/-- To write a report fails for a fault of the file system only. -/
theorem write_error {e : Error} (failed : (a.write r).2.1 = .error e) :
    ∃ path fault, e = .reportIo path fault := by
  unfold write at failed
  split at failed
  · next refused =>
    cases failed
    unfold prepare at refused
    split at refused
    · cases refused
    · cases refused
      exact ⟨_, _, rfl⟩
  · split at failed
    · next refused =>
      cases failed
      exact createFrom_error refused
    · cases failed

end Archive

end SimdProfile

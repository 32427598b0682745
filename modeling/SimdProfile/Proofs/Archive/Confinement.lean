import SimdProfile.Proofs.Archive.Search
import SimdProfile.Proofs.Origin

/-!
# Reports stay in their directory

The origin of a report is text that nothing has checked. What of it goes into the name of the file is its
last name, in which there is no slash, and the numbers and the ending keep the name from standing for a
directory. So whatever the origin is, the path of a copy leads to an entry of the directory of the reports,
and to write a report creates a file there and nowhere else.
-/

namespace SimdProfile

namespace Report

/-- A name that leads from a directory to one of its entries. -/
def IsEntryName (name : List Char) : Prop :=
  '/' ∉ name ∧ name ≠ [] ∧ name ≠ ['.'] ∧ name ≠ ['.', '.']

theorem isEntryName_copyName (r : Report) (copy : Nat) : IsEntryName (r.copyName copy).toList := by
  rw [copyName, String.toList_ofList]
  have long : 5 ≤ (r.nameChars copy).length := by
    rw [nameChars, List.length_append]
    exact Nat.le_add_left 5 _
  refine ⟨r.slash_not_mem_nameChars copy, ?_, ?_, ?_⟩ <;> intro same <;> simp [same] at long

/-- The program is the first part of a name. -/
theorem exists_copyName_eq (r : Report) (copy : Nat) :
    ∃ numbers, (r.copyName copy).toList = r.programName ++ '.' :: numbers := by
  rw [copyName, String.toList_ofList, nameChars]
  simp only [List.append_assoc, List.cons_append]
  exact ⟨_, rfl⟩

end Report

namespace Archive

/-- A report that is written is one new file, at the path of a copy in the directory. Else no file is
new. -/
theorem write_cases (a : Archive) (r : Report) :
    (∃ e, (a.write r).2.1 = .error e) ∧ a.disk.SameFiles (a.write r).1.disk ∨
    ∃ dir copy, (a.write r).1.disk.Opens a.directory dir ∧
      (a.write r).2.1 = .ok (a.pathOf r copy) ∧
        a.disk.Gains (a.write r).1.disk (a.pathOf r copy) r.text.toUTF8 := by
  unfold write
  split
  · exact .inl ⟨⟨_, rfl⟩, (FileTree.Furnishes.refl _).sameFiles⟩
  · next prepared found =>
    have furnished := FileTree.furnishes_createDirectories (prepare_eq found).1
    split
    · exact .inl ⟨⟨_, rfl⟩, furnished.sameFiles⟩
    · next written path created =>
      obtain ⟨copy, rfl, copied⟩ := createCopy_of_createFrom created
      obtain ⟨dir, opens⟩ := opens_prepare found
      have named : prepared.pathOf r copy = a.pathOf r copy := by
        rw [pathOf, pathOf, (prepare_eq found).2]
      rw [(prepare_eq found).2] at opens
      have gains := furnished.gains (createCopy_eq copied).1
      rw [named] at gains
      exact .inr ⟨dir, copy, opens.mono (grows_createCopy copied).disk, congrArg Except.ok named,
        gains⟩

/-- **A report never lands outside its directory.** -/
theorem reports_stay_in_their_directory (a : Archive) (r : Report) :
    (∀ copy, Report.IsEntryName (r.copyName copy).toList ∧
      ∃ numbers, (r.copyName copy).toList = r.programName ++ '.' :: numbers) ∧
    (∀ name, Origin.lastName r.file.toList = name →
      (r.programName =
        if name = [] ∨ name = ['.'] ∨ name = ['.', '.'] then "unknown".toList else name) ∧
      (r.programName = "unknown".toList ↔
        name = [] ∨ name = ['.'] ∨ name = ['.', '.'] ∨ name = "unknown".toList)) ∧
    (∀ dir copy loc, a.disk.Opens a.directory dir → a.disk.resolve (a.pathOf r copy) = .ok loc →
      loc = dir ++ [r.copyBytes copy]) ∧
    (∀ path, (a.write r).2.1 = .ok path →
      ∃ dir copy, (a.write r).1.disk.Opens a.directory dir ∧ path = a.pathOf r copy ∧
        (a.write r).1.disk.resolve path = .ok (dir ++ [r.copyBytes copy])) ∧
    (∀ loc contents, (a.write r).1.disk.node? loc = some (.file contents) →
      a.disk.node? loc = some (.file contents) ∨
      ∃ dir copy, (a.write r).1.disk.Opens a.directory dir ∧ loc = dir ++ [r.copyBytes copy] ∧
        contents = r.text.toUTF8) := by
  refine ⟨fun copy => ⟨r.isEntryName_copyName copy, r.exists_copyName_eq copy⟩,
    fun name named => ⟨r.programName_eq named, r.programName_eq_unknown_iff named⟩,
    fun dir copy loc opens leads => location_eq opens leads, ?_⟩
  rcases a.write_cases r with
    ⟨⟨e, failed⟩, same⟩ | ⟨dir, copy, opens, written, loc, leads, -, files⟩
  · refine ⟨fun path written => ?_, fun loc contents there => .inl ((same loc contents).mp there)⟩
    rw [failed] at written
    cases written
  · have directory : (a.write r).1.directory = a.directory := (a.grows_write r).directory
    have entry : loc = dir ++ [r.copyBytes copy] := by
      apply location_eq (a := (a.write r).1)
      · rwa [directory]
      · rwa [pathOf, directory]
    subst entry
    refine ⟨fun path written' => ?_, fun loc contents there => ?_⟩
    · rw [written] at written'
      obtain rfl := Except.ok.inj written'
      exact ⟨dir, copy, opens, rfl, leads⟩
    · cases (files loc contents).mp there with
      | inl landed => exact .inr ⟨dir, copy, opens, landed.1, landed.2⟩
      | inr before => exact .inl before

/-- The parent of a directory names no program, and its report stays below `out`. -/
theorem report_of_parent_stays :
    let a : Archive := ⟨.ofText "out", .empty⟩
    let r : Report := ⟨"/etc/cron.d/.././", 1, 8, 2, []⟩
    r.programName = "unknown".toList ∧
      ∀ loc contents, (a.write r).1.disk.node? loc = some (.file contents) →
        ∃ copy, loc = [Text.Utf8.encode "out", r.copyBytes copy] := by
  intro a r
  obtain ⟨-, program, -, -, files⟩ := reports_stay_in_their_directory a r
  refine ⟨(program _ rfl).2.mpr (.inr (.inr (.inl (by decide)))), fun loc contents there => ?_⟩
  cases files loc contents there with
  | inl before =>
    change (if loc = [] then some (FileNode.directory false) else none) = _ at before
    split at before <;> cases before
  | inr landed =>
    obtain ⟨dir, copy, opens, entry, -⟩ := landed
    have out : (a.write r).1.disk.resolve a.directory = .ok [Text.Utf8.encode "out"] := by decide +kernel
    have leads : [Text.Utf8.encode "out"] = dir := Except.ok.inj (out.symm.trans opens.leads)
    rw [← leads] at entry
    exact ⟨copy, entry⟩

end Archive

end SimdProfile

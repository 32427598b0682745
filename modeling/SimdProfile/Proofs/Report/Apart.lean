import SimdProfile.Proofs.Report.Name

/-!
# Reports that share a file name

A name ends in two numbers, or in three if it is that of a later copy, each after a dot. Numbers have no
dots in them, and so the last part of a name can always be split off: `Text.append_dot_inj`. What cannot
be told from a name is how many numbers it ends in, since the name of a program may end in a dot and a
number itself.

Names without a copy number keep programs, lines and tasks apart (`Report.fileName_eq_iff`), and so do
names that have one. A name with a copy number can be a name without one: `Report.TakesName`. There is
no other way to share a name, `Report.copyName_eq_iff`.
-/

namespace SimdProfile

namespace Text

/-- What follows the last dot of a text is determined by the text. -/
theorem append_dot_inj {a b x y : List Char} (dotless : '.' ∉ x) (dotless' : '.' ∉ y) :
    a ++ '.' :: x = b ++ '.' :: y ↔ a = b ∧ x = y := by
  constructor
  · intro same
    rcases List.append_eq_append_iff.mp same with ⟨more, rfl, rest⟩ | ⟨more, rfl, rest⟩
    · cases more with
      | nil => exact ⟨(List.append_nil a).symm, List.tail_eq_of_cons_eq rest⟩
      | cons c more =>
        have inside : '.' ∈ x := by
          rw [List.tail_eq_of_cons_eq rest]
          simp
        exact absurd inside dotless
    · cases more with
      | nil => exact ⟨List.append_nil b, (List.tail_eq_of_cons_eq rest).symm⟩
      | cons c more =>
        have inside : '.' ∈ y := by
          rw [List.tail_eq_of_cons_eq rest]
          simp
        exact absurd inside dotless'
  · rintro ⟨rfl, rfl⟩
    rfl

theorem dot_not_mem_natDigits (n : Nat) : '.' ∉ natDigits 10 n :=
  not_mem_natDigits rfl n

theorem dot_not_mem_intDigits (i : Int) : '.' ∉ intDigits i :=
  not_mem_intDigits rfl (by decide) i

theorem intDigits_injective {i j : Int} (same : intDigits i = intDigits j) : i = j := by
  have unsigned (n : Nat) : '-' ∉ natDigits 10 n := not_mem_natDigits rfl n
  cases i with
  | ofNat m =>
    cases j with
    | ofNat n => exact congrArg Int.ofNat (natDigits_injective same)
    | negSucc n =>
      have minus : '-' ∈ natDigits 10 m := by
        rw [show natDigits 10 m = '-' :: natDigits 10 (n + 1) from same]
        exact List.mem_cons_self
      exact absurd minus (unsigned m)
  | negSucc m =>
    cases j with
    | ofNat n =>
      have minus : '-' ∈ natDigits 10 n := by
        rw [show natDigits 10 n = '-' :: natDigits 10 (m + 1) from same.symm]
        exact List.mem_cons_self
      exact absurd minus (unsigned n)
    | negSucc n =>
      have digits := natDigits_injective (List.tail_eq_of_cons_eq same)
      exact congrArg Int.negSucc (Nat.succ.inj digits)

theorem intDigits_inj {i j : Int32} : intDigits i.toInt = intDigits j.toInt ↔ i = j :=
  ⟨fun same => Int32.toInt_inj.mp (intDigits_injective same), fun same => same ▸ rfl⟩

end Text

namespace Report

variable {r s : Report} {m n : Nat}

/-- The first part of a name: program and line. -/
def stem (r : Report) : List Char := r.programName ++ '.' :: Text.intDigits r.line.toInt

/-- The name of a copy without its ending. -/
def body (r : Report) (copy : Nat) : List Char :=
  r.stem ++ '.' :: Text.intDigits r.task.toInt ++
    (if copy = 0 then [] else '.' :: Text.natDigits 10 copy)

theorem body_zero (r : Report) : r.body 0 = r.stem ++ '.' :: Text.intDigits r.task.toInt :=
  List.append_nil _

theorem body_of_ne (r : Report) (later : m ≠ 0) :
    r.body m = r.body 0 ++ '.' :: Text.natDigits 10 m := by
  rw [body_zero, body, if_neg later]

theorem copyName_inj_body : r.copyName m = s.copyName n ↔ r.body m = s.body n := by
  constructor
  · intro same
    have chars : r.body m ++ ".json".toList = s.body n ++ ".json".toList :=
      String.ofList_injective same
    exact List.append_cancel_right chars
  · intro same
    show String.ofList (r.body m ++ ".json".toList) = String.ofList (s.body n ++ ".json".toList)
    rw [same]

theorem stem_inj : r.stem = s.stem ↔ r.programName = s.programName ∧ r.line = s.line := by
  rw [stem, stem, Text.append_dot_inj (Text.dot_not_mem_intDigits _) (Text.dot_not_mem_intDigits _),
    Text.intDigits_inj]

theorem body_zero_inj : r.body 0 = s.body 0 ↔ r.Namesake s := by
  rw [body_zero, body_zero,
    Text.append_dot_inj (Text.dot_not_mem_intDigits _) (Text.dot_not_mem_intDigits _), stem_inj,
    Text.intDigits_inj, Namesake, and_assoc]

/-- Names that have a copy number tell it, and keep reports apart. -/
theorem body_inj_of_ne (later : m ≠ 0) (later' : n ≠ 0) :
    r.body m = s.body n ↔ r.Namesake s ∧ m = n := by
  have number : Text.natDigits 10 m = Text.natDigits 10 n ↔ m = n :=
    ⟨Text.natDigits_injective, fun same => same ▸ rfl⟩
  rw [body_of_ne r later, body_of_ne s later',
    Text.append_dot_inj (Text.dot_not_mem_natDigits _) (Text.dot_not_mem_natDigits _), body_zero_inj,
    number]

/-- A later copy of `r` has the name of the first copy of `s`: the program of `s` is named like that of
`r` and its line together, and its line and task are the task of `r` and the number of the copy. -/
def TakesName (r : Report) (copy : Nat) (s : Report) : Prop :=
  copy ≠ 0 ∧ s.programName = r.stem ∧ s.line = r.task ∧ s.task.toInt = copy

theorem body_eq_first_iff (later : m ≠ 0) : r.body m = s.body 0 ↔ r.TakesName m s := by
  have number : Text.natDigits 10 m = Text.intDigits s.task.toInt ↔ s.task.toInt = m :=
    ⟨fun same => (Text.intDigits_injective (i := (m : Int)) same).symm, fun same => same ▸ rfl⟩
  have shorter : r.body 0 = s.stem ↔ s.programName = r.stem ∧ s.line = r.task := by
    rw [body_zero]
    show r.stem ++ '.' :: Text.intDigits r.task.toInt =
      s.programName ++ '.' :: Text.intDigits s.line.toInt ↔ _
    rw [Text.append_dot_inj (Text.dot_not_mem_intDigits _) (Text.dot_not_mem_intDigits _),
      Text.intDigits_inj, eq_comm, eq_comm (a := r.task)]
  rw [body_of_ne r later, body_zero s,
    Text.append_dot_inj (Text.dot_not_mem_natDigits _) (Text.dot_not_mem_intDigits _), shorter, number,
    and_assoc, TakesName, and_iff_right later]

/-- **Two copies of two reports share a name if they are the same copy of reports with the same program,
line and task, or if one is a later copy that takes the name of a first copy; else never.** -/
theorem copyName_eq_iff :
    r.copyName m = s.copyName n ↔
      r.Namesake s ∧ m = n ∨ n = 0 ∧ r.TakesName m s ∨ m = 0 ∧ s.TakesName n r := by
  rw [copyName_inj_body]
  by_cases first : m = 0 <;> by_cases first' : n = 0
  · subst first first'
    simp [body_zero_inj, TakesName]
  · subst first
    rw [eq_comm, body_eq_first_iff first']
    simp [first', eq_comm]
  · subst first'
    rw [body_eq_first_iff first]
    simp [first]
  · rw [body_inj_of_ne first first']
    simp [first, first']

/-- The second report of task 2 of a program has the name of the first report of another program. -/
theorem copyName_of_different_programs :
    let r : Report := { file := "k", line := 1, totalLanes := 8, task := 2, regions := [] }
    let s : Report := { file := "k.1", line := 2, totalLanes := 8, task := 1, regions := [] }
    r.copyName 1 = s.copyName 0 ∧ r.programName ≠ s.programName ∧ r.line ≠ s.line ∧ r.task ≠ s.task := by
  decide +kernel

/-- Names without a copy number keep programs, lines and tasks apart. -/
theorem fileName_eq_iff : r.fileName = s.fileName ↔ r.Namesake s := by
  rw [fileName, fileName, copyName_inj_body, body_zero_inj]

end Report

end SimdProfile

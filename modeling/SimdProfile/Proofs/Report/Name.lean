import Mathlib.Tactic.SplitIfs
import SimdProfile.Report.Archive

/-!
# Names of report files in a directory

The name of a copy is a single component of a path: there is no slash in it, and its ending keeps it from
being a dot or two. The copies of a report have different names, and so different paths.
-/

namespace SimdProfile

namespace Text

theorem not_mem_natDigits {c : Char} (other : c.isDigit = false) (n : Nat) :
    c ∉ natDigits 10 n := by
  intro member
  have digit := Nat.isDigit_of_mem_toDigits (by decide) (by decide) member
  exact absurd digit (ne_true_of_eq_false other)

/-- A number in decimal has digits and a minus sign, and no other characters. -/
theorem not_mem_intDigits {c : Char} (other : c.isDigit = false) (unsigned : c ≠ '-') (i : Int) :
    c ∉ intDigits i := by
  cases i with
  | ofNat n => exact not_mem_natDigits other n
  | negSucc n =>
    rw [intDigits, List.mem_cons, not_or]
    exact ⟨unsigned, not_mem_natDigits other (n + 1)⟩

theorem slash_not_mem_natDigits (n : Nat) : '/' ∉ natDigits 10 n :=
  not_mem_natDigits rfl n

theorem slash_not_mem_intDigits (i : Int) : '/' ∉ intDigits i :=
  not_mem_intDigits rfl (by decide) i

theorem natDigits_injective {m n : Nat} (same : natDigits 10 m = natDigits 10 n) : m = n := by
  have read := congrArg (Nat.ofDigitChars 10 · 0) same
  simpa only [natDigits, Nat.ofDigitChars_ten_toDigits] using read

namespace Utf8

theorem encode_ofList (cs : List Char) :
    encode (String.ofList cs) = cs.flatMap String.utf8EncodeChar := by
  rw [encode, String.toUTF8_eq_toByteArray, String.toByteArray_ofList, List.utf8Encode,
    List.toList_data_toByteArray]

/-- The byte of a slash stands for nothing but a slash. -/
theorem separator_mem_encodeChar {c : Char} (member : Path.separator ∈ String.utf8EncodeChar c) :
    c = '/' := by
  have code (n : Nat) (byte : n < 256) (same : Path.separator = UInt8.ofNat n) : n = 47 := by
    have values := congrArg UInt8.toNat same
    rw [UInt8.toNat_ofNat'] at values
    change 47 = n % 256 at values
    omega
  rw [String.utf8EncodeChar] at member
  by_cases short : c.val.toNat ≤ 127
  · rw [if_pos short] at member
    have same := code _ (by omega) (List.mem_singleton.mp member)
    exact Char.ext (UInt32.toNat_inj.mp same)
  -- Every byte of a longer character is 128 at least.
  · exfalso
    rw [if_neg short] at member
    split_ifs at member
    all_goals simp only [List.mem_cons, List.not_mem_nil, or_false] at member
    · rcases member with same | same <;> have := code _ (by omega) same <;> omega
    · rcases member with same | same | same <;> have := code _ (by omega) same <;> omega
    · rcases member with same | same | same | same <;> have := code _ (by omega) same <;> omega

theorem separator_not_mem_encode {cs : List Char} (slashless : '/' ∉ cs) :
    Path.separator ∉ encode (String.ofList cs) := by
  rw [encode_ofList, List.mem_flatMap]
  rintro ⟨c, member, byte⟩
  exact slashless (separator_mem_encodeChar byte ▸ member)

theorem encode_injective {s t : String} (same : encode s = encode t) : s = t := by
  have bytes : s.toUTF8 = t.toUTF8 := ByteArray.ext (Array.toList_inj.mp same)
  rw [String.toUTF8_eq_toByteArray, String.toUTF8_eq_toByteArray] at bytes
  exact String.toByteArray_inj.mp bytes

end Utf8

end Text

namespace Origin

theorem slash_not_mem_of_mem_splitOn {origin component : List Char}
    (member : component ∈ origin.splitOn '/') : '/' ∉ component := by
  induction origin generalizing component with
  | nil => simp_all [List.splitOn_nil]
  | cons c rest ih =>
    rw [List.splitOn_cons_eq_if_modifyHead] at member
    split at member
    · rcases List.mem_cons.mp member with rfl | member
      · exact List.not_mem_nil
      · exact ih member
    · next other =>
      cases pieces : rest.splitOn '/' with
      | nil => exact absurd pieces (List.splitOn_ne_nil '/' rest)
      | cons first later =>
        rw [pieces, List.modifyHead_cons] at member
        rcases List.mem_cons.mp member with rfl | member
        · have first : '/' ∉ first := ih (pieces ▸ List.mem_cons_self)
          rw [List.mem_cons, not_or]
          exact ⟨fun same => other (beq_iff_eq.mpr same.symm), first⟩
        · exact ih (pieces ▸ List.mem_cons_of_mem _ member)

/-- The base name of an origin is one component. -/
theorem slash_not_mem_baseName {origin name : List Char} (found : baseName? origin = some name) :
    '/' ∉ name := by
  obtain ⟨last, -⟩ := Option.filter_eq_some_iff.mp found
  have member := List.mem_of_getLast? last
  exact slash_not_mem_of_mem_splitOn (List.mem_filter.mp member).1

end Origin

namespace Report

variable (r : Report)

theorem slash_not_mem_programName : '/' ∉ r.programName := by
  unfold programName
  cases found : Origin.baseName? r.file.toList with
  | none => decide
  | some name => exact Origin.slash_not_mem_baseName found

/-- The name of a copy is one component. -/
theorem slash_not_mem_nameChars (copy : Nat) : '/' ∉ r.nameChars copy := by
  unfold nameChars
  split <;>
    simp [slash_not_mem_programName, Text.slash_not_mem_intDigits, Text.slash_not_mem_natDigits]

/-- The number of a copy can be read off its name. -/
theorem nameChars_injective {m n : Nat} (same : r.nameChars m = r.nameChars n) : m = n := by
  simp only [nameChars, List.append_left_inj, List.append_right_inj] at same
  split at same
  · next first =>
    split at same
    · next first' => rw [first, first']
    · cases same
  · split at same
    · cases same
    · exact Text.natDigits_injective (List.cons_inj_right '.' |>.mp same)

/-- The name of a copy as a directory has it. -/
def copyBytes (copy : Nat) : List UInt8 := (Path.ofText (r.copyName copy)).bytes

theorem copyBytes_eq (copy : Nat) :
    r.copyBytes copy = Text.Utf8.encode (String.ofList (r.nameChars copy)) := by
  rw [copyBytes, Path.ofText, copyName]

theorem separator_not_mem_copyBytes (copy : Nat) : Path.separator ∉ r.copyBytes copy := by
  rw [copyBytes_eq]
  exact Text.Utf8.separator_not_mem_encode (r.slash_not_mem_nameChars copy)

theorem copyBytes_injective {m n : Nat} (same : r.copyBytes m = r.copyBytes n) : m = n := by
  rw [copyBytes_eq, copyBytes_eq] at same
  exact r.nameChars_injective (String.ofList_injective (Text.Utf8.encode_injective same))

/-- With its ending the name of a copy is longer than the names that stand for directories. -/
theorem five_le_length_copyBytes (copy : Nat) : 5 ≤ (r.copyBytes copy).length := by
  rw [copyBytes_eq, nameChars, Text.Utf8.encode_ofList, List.flatMap_append, List.length_append]
  exact Nat.le_add_left 5 _

/-- Reports whose copies have the same names: program, line and task are the same. -/
def Namesake (r s : Report) : Prop :=
  r.programName = s.programName ∧ r.line = s.line ∧ r.task = s.task

variable {r} {s : Report}

theorem Namesake.copyName_eq (names : r.Namesake s) (copy : Nat) : r.copyName copy = s.copyName copy := by
  obtain ⟨program, line, task⟩ := names
  rw [copyName, copyName, nameChars, nameChars, program, line, task]

theorem Namesake.copyBytes_eq (names : r.Namesake s) (copy : Nat) :
    r.copyBytes copy = s.copyBytes copy := by
  rw [copyBytes, copyBytes, names.copyName_eq]

end Report

end SimdProfile

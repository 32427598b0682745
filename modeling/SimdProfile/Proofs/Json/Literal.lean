import SimdProfile.Json.Token

/-!
# Strings

What may stand between the quotes of a string, as a grammar: characters that stand for themselves,
escapes by a letter and escapes by a number, in any choice. Every spelling is read as the string of its
parts, and the one that is written is among them, so that a string is read back.
-/

namespace SimdProfile.Json.Literal

/-- The characters spell the parts of a string. -/
inductive Spells : List Piece → List Char → Prop where
  | nil : Spells [] []
  | char {c : Char} {ps : List Piece} {cs : List Char} (quote : c ≠ '"') (backslash : c ≠ '\\')
      (visible : ¬ c < ' ') (more : Spells ps cs) : Spells (.char c :: ps) (c :: cs)
  | escape {e c : Char} {ps : List Piece} {cs : List Char} (value : escaped? e = some c)
      (more : Spells ps cs) : Spells (.char c :: ps) ('\\' :: e :: cs)
  | unit {a b c d : Char} {n : Nat} {ps : List Piece} {cs : List Char} (value : unit? a b c d = some n)
      (more : Spells ps cs) : Spells (.unit n :: ps) ('\\' :: 'u' :: a :: b :: c :: d :: cs)

/-- The characters, between quotes, are a string in one of its spellings. -/
def Spelled (l : Literal) (cs : List Char) : Prop :=
  ∃ ps, Spells ps cs ∧ joinOnto [] ps.reverse = l

variable {ps qs : List Piece} {cs ds : List Char}

theorem Spells.append (first : Spells ps cs) (second : Spells qs ds) : Spells (ps ++ qs) (cs ++ ds) := by
  induction first with
  | nil => exact second
  | char quote backslash visible _ ih => exact .char quote backslash visible ih
  | escape value _ ih => exact .escape value ih
  | unit value _ ih => exact .unit value ih

/-! ### Reading -/

theorem piecesOnto_of_spells (spelled : Spells ps cs) (acc : List Piece) :
    piecesOnto acc cs = some (ps.reverse ++ acc) := by
  induction spelled generalizing acc with
  | nil => rfl
  | @char c ps cs _ backslash visible _ ih =>
    rw [piecesOnto, if_neg (by simp [backslash, visible]), ih]
    · simp
    · intros; simp_all
    · intros; simp_all
  | @escape e c ps cs value _ ih =>
    rw [piecesOnto, value]
    · simp [ih]
    · -- an escape by a letter is none by a number
      intros
      simp_all [escaped?]
  | unit value _ ih => simp [piecesOnto, value, ih]

theorem ofChars?_of_spelled {l : Literal} (spelled : l.Spelled cs) : ofChars? cs = some l := by
  obtain ⟨ps, spells, joined⟩ := spelled
  rw [ofChars?, piecesOnto_of_spells spells, Option.map_eq_map, Option.map_some, List.append_nil, joined]

/-! ### Finding the end -/

section Scan

open Token

variable (acc rest : List Char) (done : List Token)

/-- A character that is neither a quote nor a backslash goes on with a string. -/
theorem scan_plain {c : Char} (quote : c ≠ '"') (backslash : c ≠ '\\') :
    scanFrom? (.string acc) done (c :: rest) = scanFrom? (.string (c :: acc)) done rest := by
  rw [scanFrom?, step?, if_neg quote, if_neg backslash]

/-- A backslash takes the next character with it, whatever it is. -/
theorem scan_escape (c : Char) :
    scanFrom? (.string acc) done ('\\' :: c :: rest) = scanFrom? (.string (c :: '\\' :: acc)) done rest := by
  rw [scanFrom?, step?, if_neg (by decide), if_pos rfl]
  rfl

theorem digits_of_unit? {a b c d : Char} {n : Nat} (value : unit? a b c d = some n) :
    ∀ x ∈ [a, b, c, d], ∃ m, Text.digitValue? 16 x = some m := by
  simp only [unit?, List.foldlM_cons, List.foldlM_nil, Option.bind_eq_bind, Option.map_eq_map,
    Option.bind_eq_some_iff, Option.map_eq_some_iff] at value
  obtain ⟨_, ⟨_, first, -⟩, _, ⟨_, second, -⟩, _, ⟨_, third, -⟩, _, ⟨_, fourth, -⟩, -⟩ := value
  simp only [List.forall_mem_cons]
  exact ⟨⟨_, first⟩, ⟨_, second⟩, ⟨_, third⟩, ⟨_, fourth⟩, by simp⟩

/-- What a number is spelled with ends no string. -/
theorem plain_of_unit? {a b c d : Char} {n : Nat} (value : unit? a b c d = some n) :
    ∀ x ∈ [a, b, c, d], x ≠ '"' ∧ x ≠ '\\' := by
  intro x member
  obtain ⟨m, read⟩ := digits_of_unit? value x member
  constructor
  · rintro rfl
    cases read
  · rintro rfl
    cases read

theorem scan_spells (spelled : Spells ps cs) : scanFrom? (.string acc) done (cs ++ rest) =
    scanFrom? (.string (cs.reverse ++ acc)) done rest := by
  induction spelled generalizing acc with
  | nil => rfl
  | char quote backslash _ _ ih =>
    rw [List.cons_append, scan_plain _ _ _ quote backslash, ih]
    simp
  | escape _ _ ih =>
    rw [List.cons_append, List.cons_append, scan_escape, ih]
    simp
  | unit value _ ih =>
    have plain := plain_of_unit? value
    simp only [List.forall_mem_cons] at plain
    obtain ⟨first, second, third, fourth, -⟩ := plain
    simp only [List.cons_append]
    rw [scan_escape, scan_plain _ _ _ first.1 first.2, scan_plain _ _ _ second.1 second.2,
      scan_plain _ _ _ third.1 third.2, scan_plain _ _ _ fourth.1 fourth.2, ih]
    simp

/-- A string is one token, whatever its spelling. -/
theorem scan_spelled {l : Literal} (spelled : l.Spelled cs) :
    scanFrom? .nothing done ('"' :: (cs ++ '"' :: rest)) = scanFrom? .nothing (.string l :: done) rest := by
  obtain ⟨ps, spells, -⟩ := id spelled
  have quote : scanFrom? .nothing done ('"' :: (cs ++ '"' :: rest)) =
      scanFrom? (.string []) done (cs ++ '"' :: rest) := by
    rfl
  rw [quote, scan_spells _ _ _ spells, List.append_nil, scanFrom?, step?, if_pos rfl,
    List.reverse_reverse, ofChars?_of_spelled spelled]
  rfl

end Scan

/-! ### Writing -/

/-- Numbers below 32 are spelled by two hexadecimal digits. -/
theorem unit?_natDigits {n : Nat} (h : n < 32) :
    (if n < 16 then ['0'] else []) ++ Text.natDigits 16 n = [(n / 16).digitChar, (n % 16).digitChar] ∧
      unit? '0' '0' (n / 16).digitChar (n % 16).digitChar = some n := by
  revert n
  decide +kernel

/-- The three ways a character is spelled: by itself, by an escape of its own, or by its number. -/
theorem escape_cases (c : Char) :
    (escape c = [c] ∧ c ≠ '"' ∧ c ≠ '\\' ∧ ¬ c < ' ') ∨
    (∃ e, escape c = ['\\', e] ∧ escaped? e = some c) ∨
    (∃ a b, escape c = ['\\', 'u', '0', '0', a, b] ∧ unit? '0' '0' a b = some c.toNat ∧
      c.toNat < 32) := by
  unfold escape
  split
  -- the characters that have an escape of their own
  iterate 7 exact .inr (.inl ⟨_, rfl, rfl⟩)
  split
  · next control =>
    have small : c.toNat < 32 := UInt32.lt_iff_toNat_lt.mp control
    obtain ⟨digits, value⟩ := unit?_natDigits small
    exact .inr (.inr ⟨_, _, congrArg ('\\' :: 'u' :: '0' :: '0' :: ·) digits, value, small⟩)
  · next visible => exact .inl ⟨rfl, by assumption, by assumption, visible⟩

/-- A character is written as one part, which stands for that character. -/
theorem exists_spells_escape (c : Char) :
    ∃ p, Spells [p] (escape c) ∧ ∀ cs ps, joinOnto cs (p :: ps) = joinOnto (c :: cs) ps := by
  rcases escape_cases c with ⟨spelled, quote, backslash, visible⟩ | ⟨e, spelled, value⟩ |
    ⟨a, b, spelled, value, small⟩
  · refine ⟨.char c, ?_, fun _ _ => rfl⟩
    rw [spelled]
    exact .char quote backslash visible .nil
  · refine ⟨.char c, ?_, fun _ _ => rfl⟩
    rw [spelled]
    exact .escape value .nil
  · refine ⟨.unit c.toNat, ?_, ?_⟩
    · rw [spelled]
      exact .unit value .nil
    · intro cs ps
      have whole : (!isHigh c.toNat && !isLow c.toNat) = true := by
        simp [isHigh, isLow]
        omega
      rw [joinOnto.eq_def]
      simp only [whole, if_true, Char.ofNat_toNat]

theorem exists_spells_escapes (s : List Char) :
    ∃ ps, Spells ps (s.flatMap escape) ∧
      ∀ cs qs, joinOnto cs (ps.reverse ++ qs) = joinOnto (s ++ cs) qs := by
  induction s with
  | nil => exact ⟨[], .nil, fun _ _ => rfl⟩
  | cons c s ih =>
    obtain ⟨p, first, stands⟩ := exists_spells_escape c
    obtain ⟨ps, more, joined⟩ := ih
    refine ⟨p :: ps, first.append more, ?_⟩
    intro cs qs
    rw [List.reverse_cons, List.append_assoc, joined, List.singleton_append, stands, List.cons_append]

/-- What stands between the quotes. -/
def body : Literal → List Char
  | .text s => s.toList.flatMap escape
  | .unpaired => ['\\', 'u', 'd', '8', '0', '0']

theorem spelling_eq (l : Literal) : l.spelling = '"' :: (l.body ++ ['"']) := by
  cases l with
  | text s => rfl
  | unpaired => simp [spelling, body]

/-- What is written is a spelling. -/
theorem spelled_body (l : Literal) : l.Spelled l.body := by
  cases l with
  | text s =>
    obtain ⟨ps, spells, joined⟩ := exists_spells_escapes s.toList
    refine ⟨ps, spells, ?_⟩
    have read := joined [] []
    rw [List.append_nil, List.append_nil] at read
    rw [read, joinOnto, String.ofList_toList]
  | unpaired =>
    have unit : unit? 'd' '8' '0' '0' = some 0xd800 := by decide
    exact ⟨[.unit 0xd800], .unit unit .nil, by simp [joinOnto, isHigh, isLow]⟩

end SimdProfile.Json.Literal

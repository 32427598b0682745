import Mathlib.Data.List.Induction
import Mathlib.Tactic.SplitIfs
import SimdProfile.Text.Digits

/-!
# Integers read from text

What the reader of unsigned integers accepts, as a grammar: an optional plus sign and at least one digit
of the base, letters in either case, of a number up to the limit (`readUnsigned_eq_ok_iff`). Leading zeros
are digits like any others. The digits a number is written in are among them, so that it is read back.
-/

namespace SimdProfile.Text

/-- The character is the digit of a number in a base, a letter in either case. -/
def IsDigit (base : Nat) (c : Char) (d : Nat) : Prop :=
  d < base ∧ (c = d.digitChar ∨ c = d.digitChar.toUpper)

/-- The characters are digits of a base and stand for a number, the first the highest. There is at least
one. -/
inductive Digits (base : Nat) : List Char → Nat → Prop where
  | single {c : Char} {d : Nat} (digit : IsDigit base c d) : Digits base [c] d
  | concat {cs : List Char} {n : Nat} {c : Char} {d : Nat} (digits : Digits base cs n)
      (digit : IsDigit base c d) : Digits base (cs ++ [c]) (n * base + d)

/-- The characters spell a number: its digits, perhaps behind a plus sign. -/
inductive Spells (base : Nat) : List Char → Nat → Prop where
  | unsigned {cs : List Char} {n : Nat} (digits : Digits base cs n) : Spells base cs n
  | plus {cs : List Char} {n : Nat} (digits : Digits base cs n) : Spells base ('+' :: cs) n

variable {base limit n d : Nat} {c : Char} {cs : List Char}

/-! ### Single digits -/

/-- Where the digits of a base stand among the characters. -/
theorem toNat_of_digitValue? (small : base ≤ 16) (read : digitValue? base c = some d) :
    d < base ∧ ((d < 10 ∧ c.toNat = 48 + d) ∨ (10 ≤ d ∧ (c.toNat = 87 + d ∨ c.toNat = 55 + d))) := by
  have le_eq (a b : Char) : (a ≤ b) = (a.toNat ≤ b.toNat) := rfl
  have codes : '0'.toNat = 48 ∧ '9'.toNat = 57 ∧ 'a'.toNat = 97 ∧ 'z'.toNat = 122 ∧ 'A'.toNat = 65 ∧
      'Z'.toNat = 90 := by decide
  unfold digitValue? at read
  simp only [le_eq, codes, Bool.and_eq_true, decide_eq_true_eq, Option.ite_none_right_eq_some,
    Option.some.injEq] at read
  obtain ⟨below, value⟩ := read
  split_ifs at below value <;> omega

/-- Up to base sixteen the reader knows exactly the digits that numbers are written in, and capitals. -/
theorem digitValue?_eq_some_iff (small : base ≤ 16) : digitValue? base c = some d ↔ IsDigit base c d := by
  constructor
  · intro read
    have written : ∀ d < 16, (d < 10 → Char.ofNat (48 + d) = d.digitChar) ∧
        (10 ≤ d → Char.ofNat (87 + d) = d.digitChar ∧ Char.ofNat (55 + d) = d.digitChar.toUpper) := by
      decide
    obtain ⟨below, place⟩ := toNat_of_digitValue? small read
    obtain ⟨decimal, letter⟩ := written d (by omega)
    refine ⟨below, ?_⟩
    rcases place with ⟨few, code⟩ | ⟨many, code | code⟩
    · exact .inl ((Char.ofNat_toNat c).symm.trans (code ▸ decimal few))
    · exact .inl ((Char.ofNat_toNat c).symm.trans (code ▸ (letter many).1))
    · exact .inr ((Char.ofNat_toNat c).symm.trans (code ▸ (letter many).2))
  · rintro ⟨below, same⟩
    have known : ∀ base < 17, ∀ d < base, digitValue? base d.digitChar = some d ∧
        digitValue? base d.digitChar.toUpper = some d := by
      decide
    obtain ⟨lower, upper⟩ := known base (by omega) d below
    rcases same with rfl | rfl
    · exact lower
    · exact upper

theorem not_isDigit_plus (small : base ≤ 16) (d : Nat) : ¬ IsDigit base '+' d := by
  rintro ⟨below, same⟩
  have other : ∀ d < 16, '+' ≠ d.digitChar ∧ '+' ≠ d.digitChar.toUpper := by decide
  obtain ⟨lower, upper⟩ := other d (by omega)
  exact same.elim lower upper

/-! ### Rows of digits -/

theorem not_digits_nil : ¬ Digits base [] n := by
  intro digits
  generalize none : ([] : List Char) = all at digits
  cases digits <;> simp at none

theorem Digits.isDigit_of_mem (digits : Digits base cs n) : ∀ c ∈ cs, ∃ d, IsDigit base c d := by
  induction digits with
  | single digit =>
    intro c member
    rw [List.mem_singleton.mp member]
    exact ⟨_, digit⟩
  | concat digits digit ih =>
    intro c member
    rcases List.mem_append.mp member with before | last
    · exact ih c before
    · rw [List.mem_singleton.mp last]
      exact ⟨_, digit⟩

theorem not_digits_plus (small : base ≤ 16) : ¬ Digits base ('+' :: cs) n := by
  intro digits
  obtain ⟨d, digit⟩ := digits.isDigit_of_mem '+' List.mem_cons_self
  exact not_isDigit_plus small d digit

/-- The last digit apart from those before it. -/
theorem digits_concat_iff : Digits base (cs ++ [c]) n ↔
    (cs = [] ∧ IsDigit base c n) ∨
      ∃ m d, Digits base cs m ∧ IsDigit base c d ∧ m * base + d = n := by
  constructor
  · intro digits
    generalize same : cs ++ [c] = all at digits
    cases digits with
    | @single c' _ digit =>
      obtain ⟨rfl, last⟩ := List.append_inj' (show cs ++ [c] = [] ++ [c'] from same) rfl
      cases last
      exact .inl ⟨rfl, digit⟩
    | concat digits digit =>
      obtain ⟨rfl, last⟩ := List.append_inj' same rfl
      cases last
      exact .inr ⟨_, _, digits, digit, rfl⟩
  · rintro (⟨rfl, digit⟩ | ⟨m, d, digits, digit, rfl⟩)
    · exact .single digit
    · exact .concat digits digit

/-- A number is written in digits that stand for it. -/
theorem digits_natDigits (large : 1 < base) (n : Nat) : Digits base (natDigits base n) n := by
  induction n using Nat.strongRecOn with
  | _ n ih =>
    rw [natDigits, Nat.toDigits_eq_if large]
    split
    · next few => exact .single ⟨few, .inl rfl⟩
    · next many =>
      have before := ih (n / base) (Nat.div_lt_self (by omega) large)
      have all := before.concat ⟨Nat.mod_lt n (by omega), .inl rfl⟩
      rw [Nat.div_add_mod'] at all
      exact all

/-! ### Reading -/

theorem readDigits_concat (cs : List Char) (c : Char) (acc : Nat) :
    readDigits base limit (cs ++ [c]) acc =
      (readDigits base limit cs acc).bind (readDigits base limit [c]) := by
  induction cs generalizing acc with
  | nil => rfl
  | cons c' cs ih =>
    rw [List.cons_append, readDigits, readDigits]
    split
    · rfl
    · split
      · exact ih _
      · rfl

theorem readDigits_singleton_eq_ok_iff (small : base ≤ 16) {acc : Nat} :
    readDigits base limit [c] acc = .ok n ↔
      ∃ d, IsDigit base c d ∧ acc * base + d = n ∧ n ≤ limit := by
  simp only [← digitValue?_eq_some_iff small, readDigits]
  cases digitValue? base c with
  | none => simp
  | some d =>
    simp only [Option.some.injEq, exists_eq_left']
    split
    · next fits =>
      rw [Except.ok.injEq]
      exact ⟨fun same => ⟨same, same ▸ fits⟩, fun read => read.1⟩
    · next exceeds =>
      refine ⟨nofun, ?_⟩
      rintro ⟨rfl, fits⟩
      exact absurd fits exceeds

/-- From left to right, a row of digits is read if the number fits; what stands before its last digit is
smaller and fits as well. -/
theorem readDigits_eq_ok_iff (positive : 0 < base) (small : base ≤ 16) (some : cs ≠ []) :
    readDigits base limit cs 0 = .ok n ↔ Digits base cs n ∧ n ≤ limit := by
  induction cs using List.reverseRecOn generalizing n with
  | nil => exact absurd rfl some
  | append_singleton cs c ih =>
    rw [readDigits_concat, digits_concat_iff]
    by_cases first : cs = []
    · subst first
      rw [readDigits, Except.bind, readDigits_singleton_eq_ok_iff small]
      simp [not_digits_nil]
    · have step : (readDigits base limit cs 0).bind (readDigits base limit [c]) = .ok n ↔
          ∃ m, readDigits base limit cs 0 = .ok m ∧ readDigits base limit [c] m = .ok n := by
        cases readDigits base limit cs 0 <;> simp [Except.bind]
      rw [step]
      simp only [ih first, readDigits_singleton_eq_ok_iff small, first, false_and, false_or]
      constructor
      · rintro ⟨m, ⟨digits, -⟩, d, digit, value, fits⟩
        exact ⟨⟨m, d, digits, digit, value⟩, fits⟩
      · rintro ⟨⟨m, d, digits, digit, value⟩, fits⟩
        have before : m ≤ m * base := Nat.le_mul_of_pos_right m positive
        exact ⟨m, ⟨digits, by omega⟩, d, digit, value, fits⟩

/-- **The reader accepts what spells a number up to the limit, and nothing else.** -/
theorem readUnsigned_eq_ok_iff (positive : 0 < base) (small : base ≤ 16) :
    readUnsigned base limit cs = .ok n ↔ Spells base cs n ∧ n ≤ limit := by
  constructor
  · intro read
    unfold readUnsigned at read
    split at read
    · cases read
    · cases read
    · next digits some =>
      obtain ⟨digits, fits⟩ := (readDigits_eq_ok_iff positive small (by simpa using some)).mp read
      exact ⟨.plus digits, fits⟩
    · next cs none _ _ =>
      obtain ⟨digits, fits⟩ := (readDigits_eq_ok_iff positive small (by simpa using none)).mp read
      exact ⟨.unsigned digits, fits⟩
  · rintro ⟨spelled, fits⟩
    unfold readUnsigned
    cases spelled with
    | unsigned digits =>
      split
      · exact absurd digits not_digits_nil
      · exact absurd digits (not_digits_plus small)
      · exact absurd digits (not_digits_plus small)
      · next none _ _ => exact (readDigits_eq_ok_iff positive small (by simpa using none)).mpr ⟨digits, fits⟩
    | @plus cs _ digits =>
      cases cs with
      | nil => exact absurd digits not_digits_nil
      | cons c cs => exact (readDigits_eq_ok_iff positive small (List.cons_ne_nil c cs)).mpr ⟨digits, fits⟩

/-- A word is read from every spelling of its number. -/
theorem readWord_eq_ok_iff (positive : 0 < base) (small : base ≤ 16) {w : UInt32} :
    readWord base cs = .ok w ↔ Spells base cs w.toNat := by
  have accepts (n : Nat) : readUnsigned base 0xffffffff cs = .ok n ↔ Spells base cs n ∧ n ≤ 0xffffffff :=
    readUnsigned_eq_ok_iff positive small
  have word : w.toNat ≤ 0xffffffff := Nat.le_of_lt_succ w.toNat_lt
  constructor
  · intro read
    unfold readWord at read
    cases reads : readUnsigned base 0xffffffff cs with
    | error fault =>
      rw [reads] at read
      cases read
    | ok n =>
      obtain ⟨spelled, fits⟩ := (accepts n).mp reads
      rw [reads] at read
      cases read
      rw [UInt32.toNat_ofNat_of_lt' (Nat.lt_succ_of_le fits)]
      exact spelled
  · intro spelled
    rw [readWord, (accepts w.toNat).mpr ⟨spelled, word⟩]
    exact congrArg Except.ok w.ofNat_toNat

end SimdProfile.Text

import SimdProfile.Json.Numeral
import SimdProfile.Proofs.Decimal.Shortest

/-!
# Numerals

A numeral is what its spelling spells. The one written for a finite binary64 number, in plain or in
scientific notation, is read as that number, sign of zero included.
-/

namespace SimdProfile

namespace Digit

variable (ds : List Digit)

theorem isDigit_toChar (d : Digit) : d.toChar.isDigit := by
  revert d
  decide

/-- The digits of a whole part: those of the number, or one zero. -/
def ofWhole (n : Nat) : List Digit :=
  if n = 0 then [zero] else ofNat n

theorem text_ofWhole (n : Nat) : text (ofWhole n) = Text.natDigits 10 n := by
  unfold ofWhole
  split
  · next h =>
    subst h
    rfl
  · next h => exact text_ofNat h

theorem exists_ofWhole (n : Nat) : ∃ d ds, ofWhole n = d :: ds := by
  unfold ofWhole
  split
  · exact ⟨zero, [], rfl⟩
  · next h =>
    obtain ⟨d, ds, digits, -⟩ := head_ofNat_ne_zero h
    exact ⟨d, ds, digits⟩

end Digit

namespace Json.Numeral

/-! ### Reading a spelling -/

/-- Digits end where no digit follows. -/
theorem spanDigits_text (ds : List Digit) {rest : List Char} (h : ∀ c ∈ rest.head?, ¬ c.isDigit) :
    spanDigits (Digit.text ds ++ rest) = (ds, rest) := by
  induction ds with
  | nil =>
    cases rest with
    | nil => rfl
    | cons c cs =>
      have other : c.isDigit = false := Bool.eq_false_iff.mpr (h c rfl)
      simp [spanDigits, Digit.text, other]
  | cons d ds ih =>
    simp only [spanDigits, Prod.mk.injEq] at ih ⊢
    simp only [Digit.text, List.map_cons, List.cons_append, List.takeWhile_cons,
      List.dropWhile_cons, Digit.isDigit_toChar, if_true, List.filterMap_cons, Digit.ofChar?_toChar]
    exact ⟨congrArg _ ih.1, ih.2⟩

theorem ofWhole?_ofWhole (n : Nat) : ofWhole? (Digit.ofWhole n) = some n := by
  unfold Digit.ofWhole
  split
  · next h =>
    subst h
    rfl
  · next h =>
    have value := Digit.value_ofNat n
    obtain ⟨d, ds, digits, first⟩ := Digit.head_ofNat_ne_zero h
    rw [digits] at value ⊢
    cases ds with
    | nil =>
      rw [← value, Digit.value_cons]
      simp [ofWhole?, Digit.value]
    | cons d' ds => rw [ofWhole?.eq_3 d (d' :: ds) (by simp), if_neg first, value]

/-- The text of a fraction, with its point. -/
def fractionText (ds : List Digit) : List Char :=
  if ds.isEmpty then [] else '.' :: Digit.text ds

/-- The text of an exponent, if there is one. -/
def exponentText (e : Option Exponent) : List Char :=
  e.elim [] Exponent.text

theorem text_eq (n : Numeral) : n.text = (if n.negative then ['-'] else []) ++
    (Digit.text (Digit.ofWhole n.whole) ++ (fractionText n.fraction ++ exponentText n.exponent)) := by
  rw [text, Digit.text_ofWhole, fractionText, exponentText]
  cases n.exponent <;> simp only [Option.elim, List.append_assoc]

/-- The text of the sign of an exponent. -/
def signText (sign : Option Bool) : List Char :=
  sign.elim [] fun negative => if negative then ['-'] else ['+']

theorem exponentText_some (e : Exponent) : exponentText (some e) =
    (if e.capital then 'E' else 'e') :: (signText e.sign ++ Digit.text (e.first :: e.more)) := by
  obtain ⟨capital, sign, first, more⟩ := e
  rcases sign with - | - | - <;> rfl

theorem exponentText_not_digit (e : Option Exponent) : ∀ c ∈ (exponentText e).head?, ¬ c.isDigit := by
  rcases e with - | ⟨capital, sign, first, more⟩
  · simp [exponentText]
  · rw [exponentText_some]
    cases capital <;> simp

theorem spanFraction?_text (ds : List Digit) (e : Option Exponent) :
    spanFraction? (fractionText ds ++ exponentText e) = some (ds, exponentText e) := by
  cases ds with
  | nil =>
    rcases e with - | ⟨capital, sign, first, more⟩
    · rfl
    · cases capital <;> rfl
  | cons d ds =>
    have digits := spanDigits_text (d :: ds) (exponentText_not_digit e)
    simp only [fractionText, List.isEmpty_cons, Bool.false_eq_true, if_false, List.cons_append,
      spanFraction?, digits]

theorem spanSign_digit (d : Digit) (cs : List Char) :
    spanSign (d.toChar :: cs) = (none, d.toChar :: cs) := by
  have digit := Digit.isDigit_toChar d
  unfold spanSign
  split
  · next c h =>
    rw [(List.cons.inj h).1] at digit
    cases digit
  · next c h =>
    rw [(List.cons.inj h).1] at digit
    cases digit
  · rfl

theorem ofExponent?_text (e : Exponent) :
    ofExponent? e.capital (signText e.sign ++ Digit.text (e.first :: e.more)) = some e := by
  obtain ⟨capital, sign, first, more⟩ := e
  have digits := @spanDigits_text (first :: more) [] (by simp)
  rw [List.append_nil] at digits
  have unsigned : spanSign (Digit.text (first :: more)) = (none, Digit.text (first :: more)) :=
    spanSign_digit first (Digit.text more)
  rcases sign with - | - | -
  · simp only [signText, Option.elim, List.nil_append, ofExponent?, unsigned, digits]
  · simp only [signText, Option.elim, Bool.false_eq_true, if_false, List.cons_append, List.nil_append,
      ofExponent?, spanSign, digits]
  · simp only [signText, Option.elim, if_true, List.cons_append, List.nil_append, ofExponent?, spanSign,
      digits]

theorem ofTail?_text (e : Option Exponent) : ofTail? (exponentText e) = some e := by
  cases e with
  | none => rfl
  | some e =>
    have exponent := ofExponent?_text e
    rw [exponentText_some]
    cases capital : e.capital <;> rw [capital] at exponent <;>
      simp only [Bool.false_eq_true, if_true, if_false, ofTail?, exponent, Option.map_eq_map,
        Option.map_some]

theorem fractionText_not_digit (ds : List Digit) (e : Option Exponent) :
    ∀ c ∈ (fractionText ds ++ exponentText e).head?, ¬ c.isDigit := by
  cases ds with
  | nil => exact exponentText_not_digit e
  | cons d ds => simp [fractionText]

/-- A numeral is what its spelling spells. -/
theorem ofChars?_text (n : Numeral) : ofChars? n.text = some n := by
  obtain ⟨negative, whole, fraction, exponent⟩ := n
  have digits := spanDigits_text (Digit.ofWhole whole) (fractionText_not_digit fraction exponent)
  rw [text_eq]
  cases negative with
  | true =>
    simp only [if_true, List.cons_append, List.nil_append, ofChars?, digits, ofWhole?_ofWhole,
      spanFraction?_text, Option.bind_eq_bind, Option.bind_some, ofTail?_text, Option.pure_def]
  | false =>
    rw [if_neg Bool.false_ne_true, List.nil_append, ofChars?]
    · simp only [digits, ofWhole?_ofWhole, spanFraction?_text, Option.bind_eq_bind, Option.bind_some,
        ofTail?_text, Option.pure_def]
    · intro rest signed
      obtain ⟨d, ds, first⟩ := Digit.exists_ofWhole whole
      have digit := Digit.isDigit_toChar d
      rw [first] at signed
      rw [(List.cons.inj signed).1] at digit
      cases digit

/-! ### Integers -/

theorem toInt?_ofInt (i : Int) : (ofInt i).toInt? = some i := by
  cases i with
  | ofNat n => simp [ofInt, toInt?]
  | negSucc n =>
    simp [ofInt, toInt?]
    omega

/-! ### The number of a numeral -/

/-- All digits of a numeral as one number. -/
def allDigits (n : Numeral) : Nat :=
  n.whole * 10 ^ n.fraction.length + Digit.value n.fraction

/-- The power of ten that the last digit counts. -/
def lastPower (n : Numeral) : Int :=
  n.exponent.elim 0 Exponent.value - n.fraction.length

/-- The zeros at the end of a fraction change neither the number nor, but for themselves, its digits. -/
theorem exists_trimmed (n : Numeral) : ∃ k : Nat,
    n.allDigits = n.toDecimal.coefficient * 10 ^ k ∧ n.toDecimal.exponent = n.lastPower + k := by
  obtain ⟨k, length, value⟩ := Digit.value_dropTrailingZeros n.fraction
  refine ⟨k, ?_, ?_⟩
  · rw [allDigits, toDecimal, Digit.foldl_eq, length, value]
    ring
  · rw [lastPower, toDecimal, length]
    push_cast
    ring

theorem size_toDecimal (n : Numeral) : n.toDecimal.size = n.allDigits * 10 ^ n.lastPower := by
  obtain ⟨k, digits, power⟩ := exists_trimmed n
  rw [Decimal.size, digits, power, zpow_add₀ (by decide), zpow_natCast]
  push_cast
  ring

theorem coefficient_toDecimal_le (n : Numeral) : n.toDecimal.coefficient ≤ n.allDigits := by
  obtain ⟨k, digits, -⟩ := exists_trimmed n
  rw [digits]
  exact Nat.le_mul_of_pos_right _ (Nat.pow_pos (by decide))

/-! ### Notation -/

section Notation

variable (l : Notation) (negative : Bool) (first : Digit) (more : List Digit) (e : Int)

theorem negative_ofDigits : (ofDigits l negative first more e).negative = negative := by
  unfold ofDigits
  split
  · split <;> rfl
  · split <;> rfl

/-- Digits in a notation: as they are, or, if the point would stand behind them, with zeros up to the
point and one after it. -/
theorem ofDigits_cases :
    ((ofDigits l negative first more e).allDigits = Digit.value (first :: more) ∧
      (ofDigits l negative first more e).lastPower = e - more.length) ∨
    ∃ k : Nat, e = more.length + k ∧ e ≤ l.highest ∧
      (ofDigits l negative first more e).allDigits = Digit.value (first :: more) * 10 ^ (k + 1) ∧
      (ofDigits l negative first more e).lastPower = -1 := by
  unfold ofDigits
  split
  · next range =>
    split
    · next whole =>
      obtain ⟨n, rfl⟩ := Int.eq_ofNat_of_zero_le whole
      simp only [Int.toNat_natCast, Nat.pow_eq]
      by_cases inside : n < more.length
      · left
        have after : (more.drop n).isEmpty = false := by simp [inside]
        have split : first :: more = (first :: more.take n) ++ more.drop n := by simp
        have none : n - more.length = 0 := by omega
        rw [after, none]
        constructor
        · rw [split, Digit.value_append]
          simp [allDigits]
        · simp [lastPower]
          omega
      · right
        have after : more.drop n = [] := List.drop_eq_nil_of_le (by omega)
        have before : more.take n = more := List.take_of_length_le (by omega)
        refine ⟨n - more.length, by omega, range.2, ?_, ?_⟩
        · rw [after, before]
          simp [allDigits, Digit.value, Digit.zero]
          ring
        · rw [after]
          simp [lastPower]
    · next part =>
      left
      constructor
      · simp [allDigits, Digit.value_append, Digit.value_zeros]
      · have size : (e.natAbs : Int) = -e := Int.ofNat_natAbs_of_nonpos (not_le.mp part).le
        simp only [lastPower, Option.elim, List.length_append, List.length_replicate, List.length_cons]
        omega
  · next outside =>
    left
    have size := Digit.value_ofNat e.natAbs
    split
    · next d ds digits =>
      rw [digits] at size
      constructor
      · simp [allDigits, Digit.value_cons]
      · simp only [lastPower, Option.elim, Exponent.value, size, Option.some.injEq, decide_eq_true_eq]
        omega
    · next digits =>
      rw [digits] at size
      have zero : e.natAbs = 0 := size.symm
      constructor
      · simp [allDigits, Digit.value_cons]
      · simp [lastPower]
        omega

theorem size_ofDigits : (ofDigits l negative first more e).toDecimal.size =
    Digit.value (first :: more) * 10 ^ (e - more.length) := by
  rw [size_toDecimal]
  rcases ofDigits_cases l negative first more e with ⟨digits, power⟩ | ⟨k, place, -, digits, power⟩
  · rw [digits, power]
  · have shift : e - more.length = (k + 1 : Nat) + -1 := by omega
    rw [digits, power, shift, zpow_add₀ (by decide), zpow_natCast]
    push_cast
    ring

/-- A notation has no more digits than it is given, or than its highest exponent counts. -/
theorem allDigits_ofDigits_le : (ofDigits l negative first more e).allDigits ≤
    max (Digit.value (first :: more)) (10 ^ (l.highest + 2).toNat) := by
  rcases ofDigits_cases l negative first more e with ⟨digits, -⟩ | ⟨k, place, range, digits, -⟩
  · rw [digits]
    exact Nat.le_max_left _ _
  · rw [digits]
    refine (Nat.le_of_lt ?_).trans (Nat.le_max_right _ _)
    have size : Digit.value (first :: more) < 10 ^ (more.length + 1) := Digit.value_lt (first :: more)
    calc Digit.value (first :: more) * 10 ^ (k + 1) < 10 ^ (more.length + 1) * 10 ^ (k + 1) :=
          Nat.mul_lt_mul_of_pos_right size (Nat.pow_pos (by decide))
      _ = 10 ^ (e + 2).toNat := by
          rw [← Nat.pow_add]
          congr 1
          omega
      _ ≤ 10 ^ (l.highest + 2).toNat := Nat.pow_le_pow_right (by decide) (by omega)

end Notation

/-! ### Binary64 numbers -/

theorem curtail_eq {x : Decimal} {limit : Nat} (h : x.coefficient < 10 ^ limit) :
    x.curtail limit = x := by
  rw [Decimal.curtail]
  exact if_pos (Digit.length_ofNat_le h)

theorem isFinite_of_toBinary64? {n : Numeral} {x : Binary64} (h : n.toBinary64? = some x) :
    x.isFinite :=
  Binary64.isFinite_of_ofDecimal? h

/-- A numeral of few digits whose size is that of a decimal number is read as that number. -/
theorem toBinary64?_eq {n : Numeral} {x : Binary64} (few : n.allDigits < 10 ^ 768)
    (sign : n.negative = x.isNegative)
    (size : Binary64.magnitudeOf? n.toDecimal = some x.magnitude) : n.toBinary64? = some x := by
  rw [toBinary64?, maxDigits, curtail_eq ((coefficient_toDecimal_le n).trans_lt few),
    Binary64.ofDecimal?_eq_some_iff]
  exact ⟨size, sign⟩

/-- A finite number is written, and the numeral written is read as that number. -/
theorem exists_ofBinary64? {x : Binary64} (finite : x.isFinite) :
    ∃ n, ofBinary64? x = some n ∧ n.toBinary64? = some x := by
  have bound : x.magnitude < Binary64.infinity := by simpa [Binary64.isFinite] using finite
  rw [ofBinary64?, if_neg (by simp [finite])]
  split
  · next zero =>
    have few : 0 < 10 ^ 768 := by decide +kernel
    refine ⟨_, rfl, toBinary64?_eq few rfl ?_⟩
    rw [zero]
    rfl
  · next nonzero =>
    have pos := Nat.pos_of_ne_zero nonzero
    have reads := Binary64.magnitudeOf?_shortest pos bound
    have few := Binary64.shortest_lt pos bound
    generalize Binary64.shortest x.magnitude = s at *
    obtain ⟨c, e⟩ := s
    dsimp only at *
    have positive : c ≠ 0 := by
      rintro rfl
      exact nonzero (Option.some.inj reads).symm
    obtain ⟨first, more, k, digits, length, value⟩ := Digit.exists_significant positive
    have size : Digit.value (first :: more) ≤ c := by
      rw [value]
      exact Nat.le_mul_of_pos_right _ (Nat.pow_pos (by decide))
    have plain : 10 ^ (standard.highest + 2).toNat < 10 ^ 768 := by decide +kernel
    have place : e + (Digit.ofNat c).length - 1 - more.length = e + k := by
      rw [length]
      omega
    rw [digits]
    refine ⟨_, rfl, toBinary64?_eq ?_ (negative_ofDigits ..) ?_⟩
    · exact (allDigits_ofDigits_le ..).trans_lt (Nat.max_lt.mpr ⟨size.trans_lt few, plain⟩)
    · rw [← reads]
      refine Binary64.magnitudeOf?_congr ?_
      rw [size_ofDigits, Decimal.size, place, zpow_add₀ (by decide), zpow_natCast]
      simp only [value]
      push_cast
      ring

end Json.Numeral

end SimdProfile

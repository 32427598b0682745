import SimdProfile.Json.Token
import SimdProfile.Proofs.Json.Literal
import SimdProfile.Proofs.Json.Numeral

/-!
# Texts of tokens

A text spells tokens if it has each of them in one of its spellings, in order, with any blanks around
them. The scanner gives these tokens (`scan_laid`), as long as no word or numeral stands right behind
another, which no value asks for.
-/

namespace SimdProfile.Json

/-- Nothing but blanks. -/
def Blank (cs : List Char) : Prop := ∀ c ∈ cs, Token.isSpace c

/-- Whether a token is a word or a numeral, which ends where no letter or digit follows. -/
def Token.isWord : Token → Bool
  | .null | .bool _ | .number _ => true
  | _ => false

/-- The characters spell a token. -/
inductive Token.Spells : Token → List Char → Prop where
  | mark {c : Char} {t : Token} (mark : ofMark? c = some t) : Spells t [c]
  | null : Spells .null "null".toList
  | true : Spells (.bool true) "true".toList
  | false : Spells (.bool false) "false".toList
  | number (n : Numeral) : Spells (.number n) n.text
  | string {l : Literal} {cs : List Char} (spelled : l.Spelled cs) :
      Spells (.string l) ('"' :: (cs ++ ['"']))

/-- The characters spell tokens, with blanks before, between and behind them. -/
inductive Laid : List Token → List Char → Prop where
  | nil {bs : List Char} (blank : Blank bs) : Laid [] bs
  | cons {t : Token} {ts : List Token} {bs cs rest : List Char} (blank : Blank bs)
      (spelled : t.Spells cs) (more : Laid ts rest) : Laid (t :: ts) (bs ++ (cs ++ rest))

/-- No word or numeral follows another. -/
def Separated (ts : List Token) : Prop :=
  ts.IsChain fun t u => ¬ (t.isWord ∧ u.isWord)

theorem blank_nil : Blank [] := by
  intro c member
  cases member

theorem Blank.append {bs cs : List Char} (first : Blank bs) (second : Blank cs) : Blank (bs ++ cs) :=
  List.forall_mem_append.mpr ⟨first, second⟩

theorem Laid.blanks {ts : List Token} {bs cs : List Char} (blank : Blank bs) (laid : Laid ts cs) :
    Laid ts (bs ++ cs) := by
  cases laid with
  | nil more => exact .nil (blank.append more)
  | cons more spelled rest =>
    rw [← List.append_assoc]
    exact .cons (blank.append more) spelled rest

theorem Laid.token {t : Token} {ts : List Token} {cs rest : List Char} (spelled : t.Spells cs)
    (more : Laid ts rest) : Laid (t :: ts) (cs ++ rest) :=
  .cons blank_nil spelled more

theorem Laid.concat_blanks {ts : List Token} {cs bs : List Char} (laid : Laid ts cs) (blank : Blank bs) :
    Laid ts (cs ++ bs) := by
  induction laid with
  | nil before => exact .nil (before.append blank)
  | cons before spelled more ih =>
    rw [List.append_assoc, List.append_assoc]
    exact .cons before spelled ih

/-! ### Scanning -/

section Scan

open Token

/-- No word or numeral goes on here. -/
def Ends (rest : List Char) : Prop :=
  ∀ c ∈ rest.head?, ¬ isRun c

variable (done : List Token) (rest : List Char)

theorem scan_goes_on (acc cs : List Char) (run : ∀ c ∈ cs, isRun c) :
    scanFrom? (.run acc) done (cs ++ rest) = scanFrom? (.run (cs.reverse ++ acc)) done rest := by
  induction cs generalizing acc with
  | nil => rfl
  | cons c cs ih =>
    have first : isRun c := run c List.mem_cons_self
    rw [List.cons_append, scanFrom?, step?, if_pos first]
    dsimp only
    rw [ih (c :: acc) fun d member => run d (List.mem_cons_of_mem c member), List.reverse_cons,
      List.append_assoc, List.singleton_append]

theorem scan_ends {acc : List Char} {t : Token} (token : ofRun? acc.reverse = some t)
    (ends : Ends rest) : scanFrom? (.run acc) done rest = scanFrom? .nothing (t :: done) rest := by
  cases rest with
  | nil =>
    rw [scanFrom?, finish?, token]
    rfl
  | cons c cs =>
    rw [scanFrom?, scanFrom?, step?, step?, if_neg (ends c rfl), token]
    rfl

theorem not_isRun_of_isSpace {c : Char} (space : isSpace c) : ¬ isRun c := by
  simp only [isSpace, Bool.or_eq_true, beq_iff_eq] at space
  rcases space with ((rfl | rfl) | rfl) | rfl <;> exact Bool.false_ne_true

theorem begin?_run {c : Char} (run : isRun c) : begin? c done = some (.run [c], done) := by
  have space : isSpace c = false := Bool.eq_false_iff.mpr fun space => not_isRun_of_isSpace space run
  have quote : c ≠ '"' := by
    rintro rfl
    cases run
  rw [begin?, space, if_neg Bool.false_ne_true, if_neg quote, if_pos run]

/-- A word or a numeral is one token. -/
theorem scan_run {cs : List Char} {t : Token} (run : ∀ c ∈ cs, isRun c) (nonempty : cs ≠ [])
    (token : ofRun? cs = some t) (ends : Ends rest) :
    scanFrom? .nothing done (cs ++ rest) = scanFrom? .nothing (t :: done) rest := by
  cases cs with
  | nil => exact absurd rfl nonempty
  | cons c cs =>
    have token : ofRun? (cs.reverse ++ [c]).reverse = some t := by
      rw [List.reverse_append, List.reverse_reverse]
      exact token
    rw [List.cons_append, scanFrom?, step?, begin?_run done (run c List.mem_cons_self)]
    dsimp only
    rw [scan_goes_on done rest [c] cs fun d member => run d (List.mem_cons_of_mem c member),
      scan_ends done rest token ends]

theorem isRun_text (ds : List Digit) : ∀ c ∈ Digit.text ds, isRun c := by
  have digits : ∀ d : Digit, isRun d.toChar := by decide
  intro c member
  obtain ⟨d, -, rfl⟩ := List.mem_map.mp member
  exact digits d

theorem isRun_fraction (ds : List Digit) : ∀ c ∈ Numeral.fractionText ds, isRun c := by
  unfold Numeral.fractionText
  split
  · simp
  · exact List.forall_mem_cons.mpr ⟨rfl, isRun_text ds⟩

theorem isRun_exponent (e : Option Exponent) : ∀ c ∈ Numeral.exponentText e, isRun c := by
  rcases e with - | ⟨capital, sign, first, more⟩
  · simp [Numeral.exponentText]
  · have letter : isRun (if capital then 'E' else 'e') := by split <;> rfl
    have signed : ∀ c ∈ Numeral.signText sign, isRun c := by
      rcases sign with - | - | - <;> simp [Numeral.signText] <;> rfl
    rw [Numeral.exponentText_some]
    exact List.forall_mem_cons.mpr ⟨letter, List.forall_mem_append.mpr ⟨signed, isRun_text _⟩⟩

theorem isRun_numeral (n : Numeral) : ∀ c ∈ n.text, isRun c := by
  have signed : ∀ c ∈ (if n.negative then ['-'] else []), isRun c := by
    split
    · exact List.forall_mem_singleton.mpr rfl
    · simp
  rw [Numeral.text_eq]
  simp only [List.forall_mem_append]
  exact ⟨signed, isRun_text _, isRun_fraction _, isRun_exponent _⟩

theorem ofRun?_numeral (n : Numeral) : ofRun? n.text = some (.number n) := by
  have reads := Numeral.ofChars?_text n
  have other : ∀ word, Numeral.ofChars? word = none → n.text ≠ word := by
    rintro _ none rfl
    cases reads.symm.trans none
  rw [ofRun?, if_neg (other _ rfl), if_neg (other _ rfl), if_neg (other _ rfl), reads]
  rfl

theorem scan_numeral (n : Numeral) (ends : Ends rest) :
    scanFrom? .nothing done (n.text ++ rest) = scanFrom? .nothing (.number n :: done) rest := by
  refine scan_run done rest (isRun_numeral n) (fun empty => ?_) (ofRun?_numeral n) ends
  have reads := Numeral.ofChars?_text n
  rw [empty] at reads
  cases reads

theorem scan_blanks {bs : List Char} (blank : Blank bs) :
    scanFrom? .nothing done (bs ++ rest) = scanFrom? .nothing done rest := by
  induction bs with
  | nil => rfl
  | cons b bs ih =>
    have first : isSpace b := blank b List.mem_cons_self
    rw [List.cons_append, scanFrom?, step?, begin?, if_pos first]
    exact ih fun c member => blank c (List.mem_cons_of_mem b member)

/-- What has a mark is neither blank nor a quote nor part of a word. -/
theorem ofMark?_cases {c : Char} {t : Token} (mark : ofMark? c = some t) :
    ¬ isRun c ∧ begin? c done = some (.nothing, t :: done) := by
  unfold ofMark? at mark
  split at mark
  iterate 6
    cases mark
    exact ⟨by decide, rfl⟩
  cases mark

/-- A token in one of its spellings is scanned as that token, if a word or a numeral does not go on. -/
theorem scan_token {t : Token} {cs : List Char} (spelled : t.Spells cs) (ends : t.isWord → Ends rest) :
    scanFrom? .nothing done (cs ++ rest) = scanFrom? .nothing (t :: done) rest := by
  cases spelled with
  | mark mark =>
    rw [List.singleton_append, scanFrom?, step?, (ofMark?_cases done mark).2]
  | null | true | false =>
    exact scan_run done rest (List.all_eq_true.mp (by decide)) (by decide) rfl (ends rfl)
  | number n => exact scan_numeral done rest n (ends rfl)
  | string spelled =>
    rw [List.cons_append, List.append_assoc, List.singleton_append]
    exact Literal.scan_spelled rest done spelled

variable {rest}

theorem Ends.blanks {bs : List Char} (blank : Blank bs) (ends : Ends rest) : Ends (bs ++ rest) := by
  cases bs with
  | nil => exact ends
  | cons b bs =>
    rintro _ ⟨⟩
    exact not_isRun_of_isSpace (blank b List.mem_cons_self)

/-- Where no word or numeral begins, none goes on. -/
theorem ends_of_laid {ts : List Token} (laid : Laid ts rest) (other : ∀ t ∈ ts.head?, ¬ t.isWord) :
    Ends rest := by
  cases laid with
  | nil blank =>
    rw [← List.append_nil rest]
    exact Ends.blanks blank fun c member => nomatch member
  | @cons t _ _ _ _ blank spelled _ =>
    have other : ¬ t.isWord := other t rfl
    apply Ends.blanks blank
    cases spelled with
    | mark mark =>
      rintro _ ⟨⟩
      exact (ofMark?_cases [] mark).1
    | null | true | false | number => exact absurd rfl other
    | string =>
      rintro _ ⟨⟩
      decide

/-- The tokens that a text spells are those that are scanned. -/
theorem scan_laid {ts : List Token} {cs : List Char} (laid : Laid ts cs) (separated : Separated ts)
    (done : List Token) : scanFrom? .nothing done cs = some (done.reverse ++ ts) := by
  induction laid generalizing done with
  | nil blank =>
    have scanned := scan_blanks done [] blank
    rw [List.append_nil] at scanned
    rw [scanned, List.append_nil]
    rfl
  | @cons t ts bs cs rest blank spelled more ih =>
    obtain ⟨next, later⟩ := List.isChain_cons.mp separated
    have ends : t.isWord → Ends rest := by
      intro word
      apply ends_of_laid more
      intro u first other
      exact next u first ⟨word, other⟩
    rw [scan_blanks _ _ blank, scan_token _ _ spelled ends, ih later, List.reverse_cons,
      List.append_assoc, List.singleton_append]

end Scan

end SimdProfile.Json

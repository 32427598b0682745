import SimdProfile.Json.Printer
import SimdProfile.Proofs.Json.Spelling

/-!
# Values on one line

Without blanks between them, tokens are written without a single control character: those inside strings
are escaped, and nothing else has any. So a value is one line, whatever its strings say.
-/

namespace SimdProfile.Json

/-- No control character. -/
def Visible (cs : List Char) : Prop := ∀ c ∈ cs, ¬ c < ' '

@[simp] theorem visible_nil : Visible [] := by
  intro c member
  cases member

@[simp] theorem visible_cons {c : Char} {cs : List Char} :
    Visible (c :: cs) ↔ ¬ c < ' ' ∧ Visible cs :=
  List.forall_mem_cons

@[simp] theorem visible_append {cs ds : List Char} : Visible (cs ++ ds) ↔ Visible cs ∧ Visible ds :=
  List.forall_mem_append

/-- What holds of the first 32 characters holds of every control character. -/
theorem forall_control {p : Char → Prop} (all : ∀ n < 32, p (Char.ofNat n)) {c : Char}
    (control : c < ' ') : p c := by
  have small : c.toNat < 32 := UInt32.lt_iff_toNat_lt.mp control
  have shown := all c.toNat small
  rwa [Char.ofNat_toNat] at shown

theorem Literal.visible_of_escaped? {e c : Char} (value : escaped? e = some c) : ¬ e < ' ' := by
  intro control
  have none : escaped? e = none := forall_control (p := fun e => escaped? e = none) (by decide) control
  cases none.symm.trans value

theorem Literal.visible_of_unit? {a b c d : Char} {n : Nat} (value : unit? a b c d = some n) :
    Visible [a, b, c, d] := by
  intro x member control
  obtain ⟨m, read⟩ := digits_of_unit? value x member
  have none : Text.digitValue? 16 x = none :=
    forall_control (p := fun x => Text.digitValue? 16 x = none) (by decide) control
  cases none.symm.trans read

theorem Literal.visible_escape (c : Char) : Visible (escape c) := by
  rcases escape_cases c with ⟨spelled, -, -, visible⟩ | ⟨e, spelled, value⟩ |
    ⟨a, b, spelled, value, -⟩
  · rw [spelled]
    exact visible_cons.mpr ⟨visible, visible_nil⟩
  · rw [spelled]
    exact visible_cons.mpr ⟨by decide, visible_cons.mpr ⟨visible_of_escaped? value, visible_nil⟩⟩
  · rw [spelled]
    exact visible_cons.mpr ⟨by decide, visible_cons.mpr ⟨by decide, visible_of_unit? value⟩⟩

theorem Literal.visible_spelling (l : Literal) : Visible l.spelling := by
  have body : Visible l.body := by
    cases l with
    | text s =>
      intro d member
      obtain ⟨c, -, here⟩ := List.mem_flatMap.mp member
      exact visible_escape c d here
    | unpaired => simp [Literal.body]
  simpa [spelling_eq] using body

theorem visible_of_isRun {cs : List Char} (run : ∀ c ∈ cs, Token.isRun c) : Visible cs := by
  intro c member control
  have other : ¬ Token.isRun c := forall_control (p := fun c => ¬ Token.isRun c) (by decide) control
  exact other (run c member)

theorem newline_compact (depth : Nat) : Layout.compact.newline depth = [] := rfl

theorem colon_compact : Layout.compact.colon = [':'] := rfl

mutual

theorem visible_render (depth : Nat) (v : Json) : Visible (render .compact depth v) := by
  match v with
  | .null | .bool true | .bool false => simp [render]
  | .number n =>
    rw [render]
    exact visible_of_isRun (isRun_numeral n)
  | .string s =>
    rw [render]
    exact s.visible_spelling
  | .array [] | .object [] => simp [render]
  | .array (v :: vs) =>
    have first := visible_render (depth + 1) v
    have others := visible_renderElements (depth + 1) vs
    simp [render, newline_compact, first, others]
  | .object ((key, v) :: ms) =>
    have first := visible_render (depth + 1) v
    have others := visible_renderMembers (depth + 1) ms
    simp [render, newline_compact, colon_compact, key.visible_spelling, first, others]
  termination_by sizeOf v

theorem visible_renderElements (depth : Nat) (vs : List Json) :
    Visible (renderElements .compact depth vs) := by
  match vs with
  | [] => simp [renderElements]
  | v :: vs =>
    have first := visible_render depth v
    have others := visible_renderElements depth vs
    simp [renderElements, newline_compact, first, others]
  termination_by sizeOf vs

theorem visible_renderMembers (depth : Nat) (ms : List (Literal × Json)) :
    Visible (renderMembers .compact depth ms) := by
  match ms with
  | [] => simp [renderMembers]
  | (key, v) :: ms =>
    have first := visible_render depth v
    have others := visible_renderMembers depth ms
    simp [renderMembers, newline_compact, colon_compact, key.visible_spelling, first, others]
  termination_by sizeOf ms

end

/-- A value that is written without blanks is one line. -/
theorem newline_not_mem_compact (v : Json) : '\n' ∉ v.compact.toList := by
  intro member
  rw [compact, String.toList_ofList] at member
  exact visible_render 0 v _ member (by decide)

end SimdProfile.Json

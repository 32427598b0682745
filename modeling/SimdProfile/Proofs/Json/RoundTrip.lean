import SimdProfile.Json.Printer
import SimdProfile.Json.Reader
import SimdProfile.Proofs.Json.Spelling

/-!
# Reading what spells a value

A text spells a value if it spells the tokens of the value. Every such text is read as that value, whatever
it is (`parse?_of_spells`): the scanner gives the tokens, and the reader gives the value of its tokens.
Either layout writes one of these texts, since it has nothing but blanks around the tokens, so what was
written is read back.
-/

namespace SimdProfile.Json

mutual

/-- The tokens of a value. -/
def tokens : Json → List Token
  | .null => [.null]
  | .bool b => [.bool b]
  | .number n => [.number n]
  | .string s => [.string s]
  | .array [] => [.beginArray, .endArray]
  | .array (v :: vs) => .beginArray :: (tokens v ++ (elementTokens vs ++ [.endArray]))
  | .object [] => [.beginObject, .endObject]
  | .object ((key, v) :: ms) =>
    .beginObject :: .string key :: .colon :: (tokens v ++ (memberTokens ms ++ [.endObject]))

/-- The tokens of the elements after the first. -/
def elementTokens : List Json → List Token
  | [] => []
  | v :: vs => .comma :: (tokens v ++ elementTokens vs)

/-- The tokens of the members after the first. -/
def memberTokens : List (Literal × Json) → List Token
  | [] => []
  | (key, v) :: ms => .comma :: .string key :: .colon :: (tokens v ++ memberTokens ms)

end

/-- The text spells a value. -/
def Spells (v : Json) (s : String) : Prop := Laid (tokens v) s.toList

/-! ### Reading tokens -/

section Parse

variable (stack : List Open) (ts : List Token)

/-- The first element of an array is read like any value, since no value begins with a bracket that
ends an array. -/
theorem run?_arrayBegun (v : Json) : (Parse.arrayBegun stack).run? (tokens v ++ ts) =
    (Parse.value (.array [] :: stack)).run? (tokens v ++ ts) := by
  match v with
  | .null | .bool _ | .number _ | .string _ => rw [tokens]; rfl
  | .array [] | .object [] => rw [tokens]; rfl
  | .array (_ :: _) | .object (_ :: _) => rw [tokens]; rfl

mutual

theorem run?_tokens (v : Json) (stack : List Open) (ts : List Token) :
    (Parse.value stack).run? (tokens v ++ ts) = (Parse.complete v stack).run? ts := by
  match v with
  | .null | .bool _ | .number _ | .string _ =>
    rw [tokens]
    rfl
  | .array [] | .object [] =>
    rw [tokens]
    rfl
  | .array (v :: vs) =>
    calc (Parse.value stack).run? (tokens (.array (v :: vs)) ++ ts)
        = (Parse.arrayBegun stack).run? (tokens v ++ (elementTokens vs ++ .endArray :: ts)) := by
          simp only [tokens, List.cons_append, List.append_assoc, List.nil_append]
          rfl
      _ = (Parse.complete v (.array [] :: stack)).run? (elementTokens vs ++ .endArray :: ts) := by
          rw [run?_arrayBegun, run?_tokens v]
      _ = (Parse.complete (.array (v :: vs)) stack).run? ts := run?_elementTokens v [] vs stack ts
  | .object ((key, v) :: ms) =>
    calc (Parse.value stack).run? (tokens (.object ((key, v) :: ms)) ++ ts)
        = (Parse.value (.object [] key :: stack)).run?
            (tokens v ++ (memberTokens ms ++ .endObject :: ts)) := by
          simp only [tokens, List.cons_append, List.append_assoc, List.nil_append]
          rfl
      _ = (Parse.complete v (.object [] key :: stack)).run? (memberTokens ms ++ .endObject :: ts) :=
          run?_tokens v _ _
      _ = (Parse.complete (.object ((key, v) :: ms)) stack).run? ts :=
          run?_memberTokens key v [] ms stack ts
  termination_by sizeOf v

theorem run?_elementTokens (v : Json) (before vs : List Json) (stack : List Open) (ts : List Token) :
    (Parse.complete v (.array before :: stack)).run? (elementTokens vs ++ .endArray :: ts) =
      (Parse.complete (.array (before.reverse ++ v :: vs)) stack).run? ts := by
  match vs with
  | [] =>
    rw [elementTokens, ← List.reverse_cons]
    rfl
  | next :: vs =>
    calc (Parse.complete v (.array before :: stack)).run? (elementTokens (next :: vs) ++ .endArray :: ts)
        = (Parse.value (.array (v :: before) :: stack)).run?
            (tokens next ++ (elementTokens vs ++ .endArray :: ts)) := by
          simp only [elementTokens, List.cons_append, List.append_assoc]
          rfl
      _ = (Parse.complete next (.array (v :: before) :: stack)).run?
            (elementTokens vs ++ .endArray :: ts) := run?_tokens next _ _
      _ = (Parse.complete (.array (before.reverse ++ v :: next :: vs)) stack).run? ts := by
          rw [run?_elementTokens next (v :: before) vs, List.reverse_cons, List.append_assoc,
            List.singleton_append]
  termination_by sizeOf vs

theorem run?_memberTokens (key : Literal) (v : Json) (before ms : List (Literal × Json))
    (stack : List Open) (ts : List Token) :
    (Parse.complete v (.object before key :: stack)).run? (memberTokens ms ++ .endObject :: ts) =
      (Parse.complete (.object (before.reverse ++ (key, v) :: ms)) stack).run? ts := by
  match ms with
  | [] =>
    rw [memberTokens, ← List.reverse_cons]
    rfl
  | (next, w) :: ms =>
    calc (Parse.complete v (.object before key :: stack)).run?
          (memberTokens ((next, w) :: ms) ++ .endObject :: ts)
        = (Parse.value (.object ((key, v) :: before) next :: stack)).run?
            (tokens w ++ (memberTokens ms ++ .endObject :: ts)) := by
          simp only [memberTokens, List.cons_append, List.append_assoc]
          rfl
      _ = (Parse.complete w (.object ((key, v) :: before) next :: stack)).run?
            (memberTokens ms ++ .endObject :: ts) := run?_tokens w _ _
      _ = (Parse.complete (.object (before.reverse ++ (key, v) :: (next, w) :: ms)) stack).run? ts := by
          rw [run?_memberTokens next w ((key, v) :: before) ms, List.reverse_cons, List.append_assoc,
            List.singleton_append]
  termination_by sizeOf ms

end

theorem ofTokens?_tokens (v : Json) : ofTokens? (tokens v) = some v := by
  have reads := run?_tokens v [] []
  rw [List.append_nil] at reads
  rw [ofTokens?, reads]
  rfl

theorem step?_complete_of_isWord (v : Json) (stack : List Open) {t : Token} (word : t.isWord) :
    (Parse.complete v stack).step? t = none := by
  cases t <;> cases word <;> rcases stack with - | ⟨- | -, -⟩ <;> rfl

/-- A word or a numeral completes a value. -/
theorem exists_complete_of_step? {p q : Parse} {t : Token} (step : p.step? t = some q) (word : t.isWord) :
    ∃ v stack, q = .complete v stack := by
  have begun {stack : List Open} (first : Parse.begin? stack t = some q) :
      ∃ v stack, q = .complete v stack := by
    cases t <;> cases word <;> cases first <;> exact ⟨_, _, rfl⟩
  cases p with
  | value stack => exact begun step
  | arrayBegun stack => cases t <;> cases word <;> exact begun step
  | objectBegun stack => cases t <;> cases word <;> cases step
  | key members stack => cases t <;> cases word <;> cases step
  | colon members k stack => cases t <;> cases word <;> cases step
  | complete v stack =>
    rw [step?_complete_of_isWord v stack word] at step
    cases step

/-- Nothing that is read has a word or a numeral behind another: once a value is complete, a mark is
due. -/
theorem separated_of_run? {p : Parse} {ts : List Token} {v : Json} (read : p.run? ts = some v) :
    Separated ts := by
  induction ts generalizing p with
  | nil => exact .nil
  | cons t ts ih =>
    rw [Parse.run?] at read
    split at read
    · next q step =>
      refine List.isChain_cons.mpr ⟨?_, ih read⟩
      rintro u first ⟨word, other⟩
      cases ts with
      | nil => cases first
      | cons u' ts =>
        cases first
        obtain ⟨w, stack, rfl⟩ := exists_complete_of_step? step word
        rw [Parse.run?, step?_complete_of_isWord w stack other] at read
        cases read
    · cases read

/-- **A text that spells a value is read as that value.** -/
theorem parse?_of_spells {v : Json} {s : String} (spelled : v.Spells s) : parse? s = some v := by
  have separated : Separated (tokens v) := separated_of_run? (ofTokens?_tokens v)
  have scanned : Token.scan? s.toList = some (tokens v) := scan_laid spelled separated []
  rw [parse?, scanned]
  exact ofTokens?_tokens v

/-- Blanks around a text are not noticed. -/
theorem Spells.padded {v : Json} {s before after : String} (spelled : v.Spells s)
    (first : Blank before.toList) (last : Blank after.toList) : v.Spells (before ++ s ++ after) := by
  rw [Spells, String.toList_append, String.toList_append]
  exact (Laid.blanks first spelled).concat_blanks last

end Parse

/-! ### Writing -/

/-- A layout with nothing but blanks around the tokens. -/
structure Layout.Blank (l : Layout) : Prop where
  newline : ∀ depth, Json.Blank (l.newline depth)
  colon : ∃ before after, l.colon = before ++ ':' :: after ∧ Json.Blank before ∧ Json.Blank after

theorem Layout.Blank.compact : Layout.compact.Blank where
  newline _ := blank_nil
  colon := ⟨[], [], rfl, blank_nil, blank_nil⟩

theorem Layout.Blank.pretty : Layout.pretty.Blank where
  newline depth := by
    refine List.forall_mem_cons.mpr ⟨rfl, fun c member => ?_⟩
    rw [List.eq_of_mem_replicate member]
    rfl
  colon := ⟨[], [' '], rfl, blank_nil, List.forall_mem_singleton.mpr rfl⟩

section Render

variable {l : Layout} (blank : l.Blank) {ts : List Token} {rest : List Char}

theorem Laid.mark {t : Token} {c : Char} (mark : Token.ofMark? c = some t) (laid : Laid ts rest) :
    Laid (t :: ts) (c :: rest) :=
  .token (.mark mark) laid

theorem Laid.spelling (key : Literal) (laid : Laid ts rest) :
    Laid (.string key :: ts) (key.spelling ++ rest) := by
  rw [key.spelling_eq]
  exact .token (.string key.spelled_body) laid

include blank

theorem Laid.colon (laid : Laid ts rest) : Laid (.colon :: ts) (l.colon ++ rest) := by
  obtain ⟨before, after, colon, blankBefore, blankAfter⟩ := blank.colon
  rw [colon, List.append_assoc, List.cons_append]
  exact .blanks blankBefore (.mark rfl (.blanks blankAfter laid))

mutual

/-- What is written of a value has its tokens, whatever follows. -/
theorem laid_render (depth : Nat) (v : Json) {ts : List Token} {rest : List Char} (laid : Laid ts rest) :
    Laid (tokens v ++ ts) (render l depth v ++ rest) := by
  match v with
  | .null =>
    rw [render, tokens]
    exact .token .null laid
  | .bool true =>
    rw [render, tokens]
    exact .token .true laid
  | .bool false =>
    rw [render, tokens]
    exact .token .false laid
  | .number n =>
    rw [render, tokens]
    exact .token (.number n) laid
  | .string s =>
    rw [render, tokens]
    exact .spelling s laid
  | .array [] =>
    rw [render, tokens]
    exact .mark rfl (.mark rfl laid)
  | .array (v :: vs) =>
    have close : Laid (.endArray :: ts) (l.newline depth ++ ']' :: rest) :=
      .blanks (blank.newline depth) (.mark rfl laid)
    have value := laid_render (depth + 1) v (laid_renderElements (depth + 1) vs close)
    have all : Laid (.beginArray :: _) ('[' :: _) := .mark rfl (.blanks (blank.newline (depth + 1)) value)
    simpa only [render, tokens, List.cons_append, List.append_assoc, List.nil_append] using all
  | .object [] =>
    rw [render, tokens]
    exact .mark rfl (.mark rfl laid)
  | .object ((key, v) :: ms) =>
    have close : Laid (.endObject :: ts) (l.newline depth ++ '\x7d' :: rest) :=
      .blanks (blank.newline depth) (.mark rfl laid)
    have value := laid_render (depth + 1) v (laid_renderMembers (depth + 1) ms close)
    have all : Laid (.beginObject :: _) ('\x7b' :: _) :=
      .mark rfl (.blanks (blank.newline (depth + 1)) (.spelling key (.colon blank value)))
    simpa only [render, tokens, List.cons_append, List.append_assoc, List.nil_append] using all
  termination_by sizeOf v

theorem laid_renderElements (depth : Nat) (vs : List Json) {ts : List Token} {rest : List Char}
    (laid : Laid ts rest) : Laid (elementTokens vs ++ ts) (renderElements l depth vs ++ rest) := by
  match vs with
  | [] =>
    rw [renderElements, elementTokens]
    exact laid
  | v :: vs =>
    have value := laid_render depth v (laid_renderElements depth vs laid)
    have all : Laid (.comma :: _) (',' :: _) := .mark rfl (.blanks (blank.newline depth) value)
    simpa only [renderElements, elementTokens, List.cons_append, List.append_assoc] using all
  termination_by sizeOf vs

theorem laid_renderMembers (depth : Nat) (ms : List (Literal × Json)) {ts : List Token}
    {rest : List Char} (laid : Laid ts rest) :
    Laid (memberTokens ms ++ ts) (renderMembers l depth ms ++ rest) := by
  match ms with
  | [] =>
    rw [renderMembers, memberTokens]
    exact laid
  | (key, v) :: ms =>
    have value := laid_render depth v (laid_renderMembers depth ms laid)
    have all : Laid (.comma :: _) (',' :: _) :=
      .mark rfl (.blanks (blank.newline depth) (.spelling key (.colon blank value)))
    simpa only [renderMembers, memberTokens, List.cons_append, List.append_assoc] using all
  termination_by sizeOf ms

end

/-- A value written in any layout is spelled. -/
theorem spells_render (v : Json) : v.Spells (String.ofList (render l 0 v)) := by
  have laid := laid_render blank 0 v (.nil blank_nil)
  rw [List.append_nil, List.append_nil] at laid
  rw [Spells, String.toList_ofList]
  exact laid

end Render

theorem spells_pretty (v : Json) : v.Spells v.pretty :=
  spells_render Layout.Blank.pretty v

theorem spells_compact (v : Json) : v.Spells v.compact :=
  spells_render Layout.Blank.compact v

theorem parse?_pretty (v : Json) : parse? v.pretty = some v :=
  parse?_of_spells (spells_pretty v)

theorem parse?_compact (v : Json) : parse? v.compact = some v :=
  parse?_of_spells (spells_compact v)

end SimdProfile.Json

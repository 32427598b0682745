import SimdProfile.Proofs.Flags
import SimdProfile.Proofs.Json.Fields
import SimdProfile.Proofs.Settings
import SimdProfile.Settings.Format

/-!
# Settings read back

Settings whose results directory is text are written, and read from what is written they are the same if
they are valid; if they are not, they are refused as they would be themselves. Whatever text settings are
read from, they are valid.
-/

namespace SimdProfile

namespace Path

/-- A path that is text is the path with that text. -/
theorem ofText_of_text? {p : Path} {root : String} (text : p.text? = some root) : ofText root = p := by
  obtain ⟨bytes⟩ := p
  rw [text?, String.fromUTF8?] at text
  split at text
  · rw [← Option.some.inj text]
    rfl
  · cases text

end Path

namespace Settings

variable {s : Settings} {root : String} {e : Error}

theorem path?_ofText (root : String) : path? (.ofText root) = some (.ofText root) := rfl

theorem flags?_text (f : Flags) : flags? (.ofText f.text) = some f := by
  rw [flags?, Json.text?_ofText, Option.bind_eq_bind, Option.bind_some]
  exact f.ofText?_text

/-- Settings are read back from their members. -/
theorem ofJson?_toJson {v : Json} (written : s.toJson = .ok v) : ofJson? v = some s := by
  unfold toJson at written
  split at written
  · cases written
  · next root text =>
    cases written
    unfold ofJson?
    refine Json.read_bind (Json.fields?_ofMembers rfl (by decide)) ?_
    refine Json.read_bind (path?_ofText root) ?_
    refine Json.read_bind (Json.text?_ofText s.libraryOrigin) ?_
    refine Json.read_bind (Json.uint32?_ofNat s.laneWidth) ?_
    refine Json.read_bind (flags?_text s.flags) ?_
    refine Json.read_bind (Json.text?_ofText s.logLevel) ?_
    rw [Path.ofText_of_text? text]
    rfl

theorem text_eq_ok (rooted : s.resultsRoot.text? = some root) :
    ∃ v, s.toJson = .ok v ∧ s.text = .ok v.compact := by
  simp only [text, toJson, rooted]
  exact ⟨_, rfl, rfl⟩

theorem text_eq_error (unrooted : s.resultsRoot.text? = none) :
    s.text = .error (.serialization .pathIsNotText) := by
  simp only [text, toJson, unrooted]
  rfl

/-- What is read from written settings is what the check of them says. -/
theorem ofText_text {t : String} (written : s.text = .ok t) : ofText t = s.checked := by
  unfold text at written
  cases members : s.toJson with
  | error e =>
    rw [members] at written
    cases written
  | ok v =>
    rw [members] at written
    cases written
    simp only [ofText, Json.parse?_compact, ofJson?_toJson members]

theorem validate_of_ofText {t : String} (read : ofText t = .ok s) : s.validate = .ok () := by
  unfold ofText at read
  split at read
  · cases read
  · split at read
    · cases read
    · exact (checked_eq_ok_iff.mp read).2

/-- **Settings are read back as they were if they are valid, and refused as they would be themselves
otherwise.** They cannot be written only if their results directory is no text. -/
theorem settings_read_back (s : Settings) :
    (∀ root, s.resultsRoot.text? = some root →
      ∃ t, s.text = .ok t ∧ (s.validate = .ok () → ofText t = .ok s) ∧
        ∀ e, s.validate = .error e → ofText t = .error e) ∧
    (s.resultsRoot.text? = none → ∃ e, s.text = .error e ∧ e.code = "SERIALIZATION") ∧
    ∀ t, ofText t = .ok s → s.validate = .ok () := by
  refine ⟨?written, ?unrooted, ?valid⟩
  case written =>
    intro root rooted
    obtain ⟨v, -, written⟩ := text_eq_ok rooted
    refine ⟨v.compact, written, ?_, ?_⟩
    · intro valid
      rw [ofText_text written, checked_of_valid valid]
    · intro e invalid
      rw [ofText_text written, checked_of_invalid invalid]
  case unrooted =>
    intro unrooted
    exact ⟨_, text_eq_error unrooted, rfl⟩
  case valid =>
    intro t read
    exact validate_of_ofText read

/-- Settings with undeclared flags and text that needs escapes, the same for more lanes than there are, and
the same for a directory whose name is no text. -/
theorem settings_with_undeclared_flags_read_back :
    let s : Settings := ⟨.ofText "out \"1\"", "std\nlib", 64, ⟨0x80000141⟩, "Trace"⟩
    let wide := { s with laneWidth := 65 }
    let rootless := { s with resultsRoot := ⟨[0x6b, 0xff]⟩ }
    (∃ t, s.text = .ok t ∧ ofText t = .ok s ∧ s.validate = .ok ()) ∧
    (∃ t, wide.text = .ok t ∧ ofText t = .error (.settings (.laneWidth 65))) ∧
    ∃ e, rootless.text = .error e ∧ e.code = "SERIALIZATION" := by
  intro s wide rootless
  have rooted : s.resultsRoot.text? = some "out \"1\"" := by decide +kernel
  have valid : s.validate = .ok () := by decide +kernel
  have invalid : wide.validate = .error (.settings (.laneWidth 65)) := by decide +kernel
  have unrooted : rootless.resultsRoot.text? = none := by decide +kernel
  obtain ⟨t, written, read, -⟩ := (settings_read_back s).1 _ rooted
  obtain ⟨t', written', -, refused⟩ := (settings_read_back wide).1 _ rooted
  exact ⟨⟨t, written, read valid, (settings_read_back s).2.2 t (read valid)⟩,
    ⟨t', written', refused _ invalid⟩, (settings_read_back rootless).2.1 unrooted⟩

end Settings

end SimdProfile

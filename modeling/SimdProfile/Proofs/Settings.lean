import SimdProfile.Settings

/-!
# The check of settings

Settings are checked to be valid, and pass through the check unchanged. They are valid if and only if a
target has their lane width and their log level is known, and are refused as settings otherwise.
-/

namespace SimdProfile.Settings

variable {s other : Settings} {e : Error}

theorem checked_of_valid (valid : s.validate = .ok ()) : s.checked = .ok s := by
  rw [checked, valid]
  rfl

theorem checked_of_invalid (invalid : s.validate = .error e) : s.checked = .error e := by
  rw [checked, invalid]
  rfl

/-- What the check lets through is what was checked, and is valid. -/
theorem checked_eq_ok_iff : other.checked = .ok s ↔ other = s ∧ s.validate = .ok () := by
  constructor
  · intro accepted
    cases check : other.validate with
    | error e => cases (checked_of_invalid check).symm.trans accepted
    | ok u =>
      cases (checked_of_valid check).symm.trans accepted
      exact ⟨rfl, check⟩
  · rintro ⟨rfl, valid⟩
    exact checked_of_valid valid

theorem validate_eq_ok_iff : s.validate = .ok () ↔
    isLaneWidth s.laneWidth.toNat ∧ (Log.Filter.ofName? s.logLevel).isSome := by
  unfold validate
  cases width : isLaneWidth s.laneWidth.toNat with
  | false => simp
  | true =>
    unfold logFilter
    cases level : Log.Filter.ofName? s.logLevel with
    | none => simp [Except.map]
    | some f => simp [Except.map]

theorem isLaneWidth_iff {width : Nat} : isLaneWidth width ↔ 1 ≤ width ∧ width ≤ 64 := by
  rw [isLaneWidth, maxLanes, Bool.and_eq_true, decide_eq_true_eq, decide_eq_true_eq]

theorem exists_fault_of_invalid (invalid : s.validate = .error e) : ∃ fault, e = .settings fault := by
  unfold validate at invalid
  split at invalid
  · cases invalid
    exact ⟨_, rfl⟩
  · unfold logFilter at invalid
    split at invalid
    · cases invalid
    · cases invalid
      exact ⟨_, rfl⟩

theorem exists_fault_of_checked (refused : s.checked = .error e) : ∃ fault, e = .settings fault := by
  cases check : s.validate with
  | ok u => cases (checked_of_valid check).symm.trans refused
  | error e' =>
    cases (checked_of_invalid check).symm.trans refused
    exact exists_fault_of_invalid check

end SimdProfile.Settings

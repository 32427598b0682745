import SimdProfile.Proofs.Request.LaneWidth
import SimdProfile.Proofs.Settings.Environment
import SimdProfile.Proofs.Settings.Format
import SimdProfile.Settings.InForce

/-!
# The settings in force are valid

The settings in force are the last ones that were accepted, whatever else was tried, and so they are valid
like those that are read from text and from the environment. A profiler that is built from settings of
either origin never has a profile with a lane width that no target has
(`settings_in_force_keep_lane_widths`).
-/

namespace SimdProfile.Settings

variable {start s : Settings}

/-- The settings in force after attempts to replace them, the first attempt first. -/
def inForceAfter (start : Settings) (attempts : List Settings) : Settings :=
  attempts.foldl (fun inForce s => (inForce.replace s).1) start

/-- An attempt is answered as the settings are checked, and replaces those in force as a whole or not at
all. -/
theorem replace_eq (inForce s : Settings) :
    inForce.replace s = (if s.validate = .ok () then s else inForce, s.validate) := by
  unfold replace
  cases check : s.validate with
  | ok u => rfl
  | error e => rfl

theorem inForceAfter_concat (start : Settings) (attempts : List Settings) (s : Settings) :
    inForceAfter start (attempts ++ [s]) = ((inForceAfter start attempts).replace s).1 :=
  List.foldl_concat _ _ _ _

/-- In force are the last settings that were accepted, or the first of all. -/
theorem inForceAfter_eq_last (start : Settings) (attempts : List Settings) :
    inForceAfter start attempts =
      ((attempts.filter fun s => s.validate = .ok ()).getLast?).getD start := by
  induction attempts using List.reverseRecOn with
  | nil => rfl
  | append_singleton attempts s ih =>
    rw [inForceAfter_concat, replace_eq, List.filter_append]
    by_cases valid : s.validate = .ok ()
    · simp [valid]
    · simp [valid, ih]

/-- Valid settings are never replaced by others. -/
theorem validate_inForceAfter (valid : start.validate = .ok ()) (attempts : List Settings) :
    (inForceAfter start attempts).validate = .ok () := by
  induction attempts using List.reverseRecOn with
  | nil => exact valid
  | append_singleton attempts s ih =>
    rw [inForceAfter_concat, replace_eq]
    dsimp only
    split
    · assumption
    · exact ih

theorem validate_default : default.validate = .ok () := rfl

/-- Where settings come from: they are in force after attempts that follow the default, or they are read
from text or from an environment. -/
inductive Obtained : Settings → Prop where
  | inForce (attempts : List Settings) : Obtained (inForceAfter default attempts)
  | text {t : String} {s : Settings} (read : ofText t = .ok s) : Obtained s
  | environment {env : Environment} {s : Settings} (read : ofEnvironment env = .ok s) : Obtained s

theorem Obtained.valid (obtained : Obtained s) : s.validate = .ok () := by
  cases obtained with
  | inForce attempts => exact validate_inForceAfter validate_default attempts
  | text read => exact validate_of_ofText read
  | environment read => exact validate_of_ofEnvironment read

/-- **Settings are set whole, are valid at any time, and keep the lane widths of all profiles.** Each
attempt to replace those in force fails as the check of the new ones does, and leaves the old ones then.
Whatever requests threads make to a profiler that is built from settings in force, or from settings that
are read, every profile that is there has from 1 to 64 lanes. -/
theorem settings_in_force_keep_lane_widths :
    (∀ attempts s, ((inForceAfter default attempts).replace s).2 = s.validate ∧
      inForceAfter default (attempts ++ [s]) =
        if s.validate = .ok () then s else inForceAfter default attempts) ∧
    (∀ attempts, (inForceAfter default attempts).validate = .ok () ∧
      inForceAfter default attempts =
        ((attempts.filter fun s => s.validate = .ok ()).getLast?).getD default) ∧
    ∀ s, Obtained s → ∀ source begun disk w t c,
      ((Profiler.create s source begun disk).serveAll w).roster.profile? t = some c →
        1 ≤ c.declaration.laneWidth.toNat ∧ c.declaration.laneWidth.toNat ≤ 64 := by
  refine ⟨?replaced, ?valid, ?lanes⟩
  case replaced =>
    intro attempts s
    rw [inForceAfter_concat, replace_eq]
    exact ⟨rfl, rfl⟩
  case valid =>
    intro attempts
    exact ⟨validate_inForceAfter validate_default attempts, inForceAfter_eq_last default attempts⟩
  case lanes =>
    intro s obtained source begun disk w t c has
    have laned := (Profiler.laned_create obtained.valid source begun disk).serveAll w
    exact isLaneWidth_iff.mp (laned.profiles t c has)

/-- Settings of 64 lanes between two attempts that fail, and threads that begin their profiles with them
and with one lane, after declarations of none and of too many. -/
theorem settings_between_failed_attempts_keep_lane_widths :
    let most := { default with laneWidth := 64 }
    let attempts := [{ default with laneWidth := 0 }, most, { default with logLevel := "loud" }]
    let p := Profiler.create (inForceAfter default attempts) .disabled ⟨2024, 1, 2, 3, 4, 5⟩ .empty
    let declare (width : Int32) : Request := .direct (.declare "kernel.ispc" 3 width 0x7e)
    let start : Request := .direct (.start "kernel.ispc" 4 3 9 0 0xff)
    let w := [(⟨1⟩, declare 65), (⟨1⟩, start), (⟨2⟩, declare (-1)), (⟨2⟩, declare 1), (⟨2⟩, start)]
    inForceAfter default attempts = most ∧
    ∃ lazy declared, (p.serveAll w).roster.profile? ⟨1⟩ = some lazy ∧
      (p.serveAll w).roster.profile? ⟨2⟩ = some declared ∧
      lazy.declaration.laneWidth = 64 ∧ lazy.declaration.laneWidth.toNat ≤ 64 ∧
      declared.declaration.laneWidth = 1 ∧ 1 ≤ declared.declaration.laneWidth.toNat := by
  intro most attempts p declare start w
  obtain ⟨-, accepted, lanes⟩ := settings_in_force_keep_lane_widths
  have wide : ((p.serveAll w).roster.profile? ⟨1⟩).map (·.declaration.laneWidth) = some 64 := by
    decide +kernel
  have narrow : ((p.serveAll w).roster.profile? ⟨2⟩).map (·.declaration.laneWidth) = some 1 := by
    decide +kernel
  obtain ⟨lazy, hasLazy, wide⟩ := Option.map_eq_some_iff.mp wide
  obtain ⟨declared, hasDeclared, narrow⟩ := Option.map_eq_some_iff.mp narrow
  have obtained : Obtained (inForceAfter default attempts) := .inForce attempts
  refine ⟨(accepted attempts).2.trans ?_, lazy, declared, hasLazy, hasDeclared, wide, ?_, narrow, ?_⟩
  · decide
  · exact (lanes _ obtained _ _ _ _ _ _ hasLazy).2
  · exact (lanes _ obtained _ _ _ _ _ _ hasDeclared).1

end SimdProfile.Settings

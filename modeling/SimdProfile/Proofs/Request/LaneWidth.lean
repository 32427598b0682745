import SimdProfile.Proofs.Profile.Samples
import SimdProfile.Proofs.Request.Effect
import SimdProfile.Proofs.Settings

/-!
# The lane widths of profiles

A profile never checks its lane width, and never changes it: it keeps the declaration it was begun with.
There are two ways to begin one. A thread declares a width, which is checked then, or it starts a region
without a declaration and gets the width of the profiler, which was checked with the settings.
-/

namespace SimdProfile

variable {p : Profiler} {t : ThreadId} {r : Request} {c : ThreadProfile} {d : Declaration}

/-- A declared width is taken only if a target has it. -/
theorem Profiler.isLaneWidth_of_laneWidth? {width : Int32} {lanes : UInt32}
    (known : laneWidth? width = some lanes) : Settings.isLaneWidth lanes.toNat := by
  unfold laneWidth? at known
  split at known
  · next bounds =>
    cases known
    obtain ⟨positive, few⟩ : 1 ≤ width.toInt ∧ width.toInt ≤ 64 := bounds
    have fits : width.toInt.toNat < 2 ^ 32 := by omega
    rw [UInt32.toNat_ofNat_of_lt' fits]
    apply Settings.isLaneWidth_iff.mpr
    omega
  · cases known

/-- A profile is begun with the lanes of a target if these are the terms. -/
theorem Request.isLaneWidth_of_begins {terms : Terms}
    (default : Settings.isLaneWidth terms.laneWidth.toNat) (begins : r.declaration? terms = some d) :
    Settings.isLaneWidth d.laneWidth.toNat := by
  unfold declaration? at begins
  split at begins
  · obtain ⟨-, ⟨_, _, _, _, _, -, known, rfl⟩ | ⟨_, _, _, _, _, _, _, -, -, rfl⟩⟩ :=
      Call.begins_cases begins
    · exact Profiler.isLaneWidth_of_laneWidth? known
    · exact default
  · cases begins

namespace Profiler

/-- A profile keeps the declaration it had before a request, or was begun by the request. -/
theorem declaration_serve (has : (p.serve t r).profiler.roster.profile? t = some c) :
    (∃ before, p.roster.profile? t = some before ∧ c.declaration = before.declaration) ∨
      r.declaration? p.terms = some c.declaration := by
  cases before : p.roster.profile? t with
  | some b =>
    left
    by_cases finish : r.operation = .finish
    · cases (serve_of_finish before finish).1.own.symm.trans has
    · cases (serve_of_some before finish).own.symm.trans has
      exact ⟨b, rfl, b.declaration_run _⟩
  | none =>
    right
    cases begins : r.declaration? p.terms with
    | none => cases (serve_of_none before begins).own.symm.trans has
    | some d =>
      cases programmed : p.roster.service.addUser.2.1 with
      | error e => cases (serve_of_refuses before begins programmed).own.symm.trans has
      | ok =>
        cases (serve_of_accepts before begins programmed).own.symm.trans has
        rw [ThreadProfile.declaration_run]
        rfl

/-- All profiles have the lanes of a target, and so will those that are begun without a declaration. -/
structure Laned (p : Profiler) : Prop where
  default : Settings.isLaneWidth p.laneWidth.toNat
  profiles : ∀ t c, p.roster.profile? t = some c → Settings.isLaneWidth c.declaration.laneWidth.toNat

theorem laned_create {s : Settings} (valid : s.validate = .ok ()) (source : Counters.Source)
    (begun : Moment) (disk : FileTree) : (create s source begun disk).Laned := by
  refine ⟨(Settings.validate_eq_ok_iff.mp valid).1, ?_⟩
  intro t c has
  cases has

theorem Laned.serve (h : p.Laned) (t : ThreadId) (r : Request) : (p.serve t r).profiler.Laned := by
  have kept : (p.serve t r).profiler.laneWidth = p.laneWidth :=
    congrArg Terms.laneWidth (p.terms_serve t r).1
  refine ⟨kept ▸ h.default, ?_⟩
  intro u c has
  by_cases own : u = t
  · subst own
    rcases declaration_serve has with ⟨before, had, same⟩ | begins
    · rw [same]
      exact h.profiles u before had
    · exact r.isLaneWidth_of_begins h.default begins
  · rw [p.profile?_serve_of_ne own] at has
    exact h.profiles u c has

theorem Laned.serveAll (h : p.Laned) (w : List (ThreadId × Request)) : (p.serveAll w).Laned := by
  induction w generalizing p with
  | nil => exact h
  | cons x w ih => exact ih (h.serve x.1 x.2)

end Profiler

end SimdProfile

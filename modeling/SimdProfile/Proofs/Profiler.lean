import SimdProfile.Proofs.Profile.Action
import SimdProfile.Proofs.Roster
import SimdProfile.Profiler

/-!
# What a call does to the profiles

Each operation of the profiler, opened once. A call is a short run of actions on the profile of its own
thread, which may have to be begun first, and its answer is read off that profile. Profiles of other
threads stay as they are.
-/

namespace SimdProfile

/-- What enlisting a thread can give it: the profile it has, or an empty one. -/
def Roster.Enlists (r : Roster) (t : ThreadId) (c : ThreadProfile) : Prop :=
  r.profile? t = some c ∨ r.profile? t = none ∧ ∃ d, c = .create t d

theorem Roster.Enlists.eq_of_some {r : Roster} {t : ThreadId} {c d : ThreadProfile}
    (h : r.Enlists t c) (has : r.profile? t = some d) : c = d := by
  rcases h with has' | ⟨none, -⟩
  · exact Option.some.inj (has'.symm.trans has)
  · cases none.symm.trans has

/-- A profile before and after an entry that answers `id`: there is one more frame, and `id` is what
it stands for. -/
structure ThreadProfile.Entered (before after : ThreadProfile) (id : Option RegionId) : Prop where
  run : ∃ as : List Action, as.all (! ·.isLeave) ∧ after = before.run as
  stack : ∃ frame, after.stack = frame :: before.stack ∧ id = after.frameId? frame

/-- A profile before and after calls that neither enter nor leave. -/
structure ThreadProfile.Rested (before after : ThreadProfile) : Prop where
  run : ∃ as : List Action, as.all (! ·.isLeave) ∧ after = before.run as
  stack : after.stack = before.stack

/-- A suppressed frame is an entry without a region, in the profile a thread has. -/
theorem Roster.suppress_cases (r : Roster) (t : ThreadId) (kind : RegionKind) :
    let after := r.amend t (·.suppress kind)
    (r.profile? t = none ∧ ∀ u, after.profile? u = r.profile? u) ∨
      ∃ c, r.profile? t = some c ∧ c.Entered (c.suppress kind) none ∧
        ∀ u, after.profile? u = if u = t then some (c.suppress kind) else r.profile? u := by
  dsimp only
  cases has : r.profile? t with
  | none =>
    refine .inl ⟨rfl, fun u => ?_⟩
    by_cases own : u = t
    · rw [own, Roster.profile?_amend_self, has, Option.map_none]
    · exact Roster.profile?_amend_of_ne _ own _
  | some c =>
    have entered : c.Entered (c.suppress kind) none :=
      ⟨⟨[.suppress kind], rfl, rfl⟩, .suppressed kind, rfl, rfl⟩
    refine .inr ⟨c, rfl, entered, fun u => ?_⟩
    by_cases own : u = t
    · rw [if_pos own, own, Roster.profile?_amend_self, has, Option.map_some]
    · rw [if_neg own]
      exact Roster.profile?_amend_of_ne _ own _

namespace Profiler

variable (p : Profiler) {t u : ThreadId} {c : ThreadProfile}

theorem profile?_putProfile (has : p.roster.profile? t = some c) (after : ThreadProfile)
    (u : ThreadId) :
    (p.putProfile t after).roster.profile? u = if u = t then some after else p.roster.profile? u := by
  rw [putProfile]
  by_cases own : u = t
  · rw [if_pos own, own, Roster.profile?_amend_self, has, Option.map_some]
  · rw [if_neg own, Roster.profile?_amend_of_ne _ own]

theorem profile?_snapshotIf (wanted : Bool) (u : ThreadId) :
    (p.snapshotIf wanted).1.roster.profile? u = p.roster.profile? u := by
  unfold snapshotIf
  split
  · exact Roster.profile?_congr rfl u
  · rfl

theorem measure_snapshotIf (wanted : Bool) : (p.snapshotIf wanted).1.measure = p.measure := by
  unfold snapshotIf
  split <;> rfl

/-! ### Starting a region -/

/-- A region of an unknown kind is refused before anything is done. -/
theorem start_of_unknown {kindCode : Int32} (unknown : RegionKind.ofCode? kindCode = none)
    (origin : String) (startLine endLine task : Int32) (mask : UInt64) :
    p.start t origin kindCode startLine endLine task mask =
      p.refuse (.unknownRegionKind kindCode) := by
  simp only [start, unknown]

variable {kindCode : Int32} {kind : RegionKind} {origin : String}

/-- A region of the library is a suppressed frame of the profile, if there is one. -/
theorem start_of_library (known : RegionKind.ofCode? kindCode = some kind)
    (library : p.roster.isLibrary origin = true) (startLine endLine task : Int32) (mask : UInt64) :
    p.start t origin kindCode startLine endLine task mask =
      ⟨{ p with roster := p.roster.amend t (·.suppress kind) }, .ok none, []⟩ := by
  simp only [start, known, library, if_true]

/-- What an entry does to the profiles and what it answers. -/
theorem enter_entered (has : p.roster.profile? t = some c) (kind : RegionKind)
    (startLine endLine task : Int32) (mask : UInt64) :
    ∃ after, c.Entered after (p.enter t c kind startLine endLine task mask).2 ∧
      ∀ u, (p.enter t c kind startLine endLine task mask).1.roster.profile? u =
        if u = t then some after else p.roster.profile? u := by
  let declared := c.declareTask task
  let wanted := declared.readsCounters && declared.records kind
  let snapshot := (p.snapshotIf wanted).2
  let entry := declared.enter kind startLine endLine mask snapshot
  have has' : (p.snapshotIf wanted).1.roster.profile? t = some c := by
    rw [profile?_snapshotIf, has]
  refine ⟨entry.1, ⟨?_, ?_⟩, ?_⟩
  · exact ⟨[.declareTask task, .enter kind startLine endLine mask snapshot], rfl, rfl⟩
  · exact declared.enter_answer kind startLine endLine mask snapshot
  · intro u
    have put := profile?_putProfile _ has' entry.1 u
    rwa [profile?_snapshotIf] at put

/-- A start that cannot enlist its thread fails with that error. -/
theorem start_of_failed (known : RegionKind.ofCode? kindCode = some kind)
    (foreign : p.roster.isLibrary origin = false) {startLine : Int32} {e : Error}
    (failed : (p.roster.enlist t ⟨origin, startLine, p.laneWidth, p.flags⟩).2.1 = .error e)
    (endLine task : Int32) (mask : UInt64) :
    let enlisted := p.roster.enlist t ⟨origin, startLine, p.laneWidth, p.flags⟩
    p.start t origin kindCode startLine endLine task mask =
      ⟨{ p with roster := enlisted.1 }, .error e, enlisted.2.2⟩ := by
  simp only [start, known, foreign, Bool.false_eq_true, if_false, failed]

/-- A start enlists its thread and enters the region in the profile it finds then. -/
theorem start_of_enlisted (known : RegionKind.ofCode? kindCode = some kind)
    (foreign : p.roster.isLibrary origin = false) {startLine : Int32} {handle : Option Handle}
    (given : (p.roster.enlist t ⟨origin, startLine, p.laneWidth, p.flags⟩).2.1 = .ok handle)
    (has : (p.roster.enlist t ⟨origin, startLine, p.laneWidth, p.flags⟩).1.profile? t = some c)
    (endLine task : Int32) (mask : UInt64) :
    let enlisted := p.roster.enlist t ⟨origin, startLine, p.laneWidth, p.flags⟩
    let entry := { p with roster := enlisted.1 }.enter t c kind startLine endLine task mask
    p.start t origin kindCode startLine endLine task mask = ⟨entry.1, .ok entry.2, enlisted.2.2⟩ := by
  simp only [start, known, foreign, Bool.false_eq_true, if_false, given, has]

/-- A start of a known kind either finds no profile and leaves none, or is an entry. -/
theorem start_cases (known : RegionKind.ofCode? kindCode = some kind)
    (startLine endLine task : Int32) (mask : UInt64) :
    let reply := p.start t origin kindCode startLine endLine task mask
    (p.roster.profile? t = none ∧ ∀ u, reply.profiler.roster.profile? u = p.roster.profile? u) ∨
      ∃ c after id, p.roster.Enlists t c ∧ c.Entered after id ∧ reply.result = .ok id ∧
        ∀ u, reply.profiler.roster.profile? u =
          if u = t then some after else p.roster.profile? u := by
  dsimp only
  cases library : p.roster.isLibrary origin with
  | true =>
    rw [p.start_of_library known library]
    rcases p.roster.suppress_cases t kind with ⟨has, same⟩ | ⟨c, has, entered, profiles⟩
    · exact .inl ⟨has, same⟩
    · exact .inr ⟨c, c.suppress kind, none, .inl has, entered, rfl, profiles⟩
  | false =>
    cases has : p.roster.profile? t with
    | some c =>
      obtain ⟨handle, kept⟩ := p.roster.enlist_of_some (t := t)
        (d := ⟨origin, startLine, p.laneWidth, p.flags⟩) library has
      rw [p.start_of_enlisted known library (congrArg (·.2.1) kept) (by rw [kept, has]), kept]
      obtain ⟨after, entered, profiles⟩ := p.enter_entered has kind startLine endLine task mask
      exact .inr ⟨c, after, _, .inl has, entered, rfl, profiles⟩
    | none =>
      rcases p.roster.enlist_of_none (t := t) (d := ⟨origin, startLine, p.laneWidth, p.flags⟩)
        library has with ⟨e, failed, same⟩ | ⟨handle, given, profiles⟩
      · rw [p.start_of_failed known library failed]
        exact .inl ⟨rfl, same⟩
      · have has' := (profiles t).trans (if_pos rfl)
        rw [p.start_of_enlisted known library given has']
        let q : Profiler :=
          { p with roster := (p.roster.enlist t ⟨origin, startLine, p.laneWidth, p.flags⟩).1 }
        obtain ⟨after, entered, profiles'⟩ :=
          q.enter_entered has' kind startLine endLine task mask
        refine .inr ⟨_, after, _, .inr ⟨has, _, rfl⟩, entered, rfl, fun u => ?_⟩
        rw [profiles' u, profiles u]
        split <;> rfl

/-! ### Stopping a region -/

theorem stop_of_none (has : p.roster.profile? t = none) (kindCode line : Int32) :
    p.stop t kindCode line = p.refuse (.missingProfile Operation.stop.name) := by
  simp only [stop, has]

/-- With nothing open there is nothing to stop. -/
theorem stop_of_empty (has : p.roster.profile? t = some c) (empty : c.stack = [])
    (kindCode line : Int32) :
    (p.stop t kindCode line).result = .error (.unbalancedEnd line) ∧
      ∀ u, (p.stop t kindCode line).profiler.roster.profile? u = p.roster.profile? u := by
  simp only [stop, has, c.leave_eq, empty]
  exact ⟨trivial, p.profile?_snapshotIf _⟩

/-- A stop answers the region of the innermost frame and leaves that frame, whatever kind it is told. -/
theorem stop_of_cons {frame : Frame} {rest : List Frame} (has : p.roster.profile? t = some c)
    (opened : c.stack = frame :: rest) (kindCode line : Int32) :
    (p.stop t kindCode line).result = .ok (c.frameId? frame) ∧
      ∀ u, (p.stop t kindCode line).profiler.roster.profile? u =
        if u = t then some (c.act (.leave p.measure (p.snapshotIf c.readsCounters).2 line))
        else p.roster.profile? u := by
  have has' : (p.snapshotIf c.readsCounters).1.roster.profile? t = some c := by
    rw [profile?_snapshotIf, has]
  simp only [stop, has, c.leave_eq, opened, measure_snapshotIf]
  refine ⟨trivial, fun u => ?_⟩
  rw [profile?_putProfile _ has', profile?_snapshotIf]

/-! ### Declarations, observations and the end -/

/-- A declaration leaves everything as it is or begins a profile. -/
theorem declare_cases (origin : String) (line width : Int32) (flags : UInt32) :
    let after := (p.declare t origin line width flags).profiler.roster
    (∀ u, after.profile? u = p.roster.profile? u) ∨
      ∃ c, p.roster.Enlists t c ∧
        ∀ u, after.profile? u = if u = t then some c else p.roster.profile? u := by
  dsimp only
  unfold declare
  split
  · exact .inl fun _ => rfl
  · next width _ =>
    cases library : p.roster.isLibrary origin with
    | true =>
      rw [p.roster.enlist_of_library (t := t) (d := ⟨origin, line, width, .ofWord flags⟩) library]
      exact .inl fun _ => rfl
    | false =>
      cases has : p.roster.profile? t with
      | some c =>
        obtain ⟨handle, kept⟩ := p.roster.enlist_of_some (t := t)
          (d := ⟨origin, line, width, .ofWord flags⟩) library has
        rw [kept]
        exact .inl fun _ => rfl
      | none =>
        rcases p.roster.enlist_of_none (t := t) (d := ⟨origin, line, width, .ofWord flags⟩)
          library has with ⟨e, -, same⟩ | ⟨handle, -, profiles⟩
        · exact .inl same
        · exact .inr ⟨_, .inr ⟨has, _, rfl⟩, profiles⟩

/-- An observation changes at most the innermost region of the thread. -/
theorem observe_cases (operation : Operation) (note : String) (line : Int32) (mask : UInt64)
    (kindCode : Int32) :
    let after := (p.observe operation t note line mask kindCode).profiler.roster
    (∀ u, after.profile? u = p.roster.profile? u) ∨
      ∃ c, p.roster.profile? t = some c ∧
        ∀ u, after.profile? u =
          if u = t then some (c.act (.observe line mask)) else p.roster.profile? u := by
  dsimp only
  unfold observe
  split
  · exact .inl fun _ => rfl
  · split
    · exact .inl fun _ => rfl
    · next c has =>
      split
      · exact .inl fun _ => rfl
      · split
        · exact .inl fun _ => rfl
        · next after id observed =>
          refine .inr ⟨c, has, fun u => ?_⟩
          have same : c.act (.observe line mask) = after := by
            simp only [ThreadProfile.act, observed]
          rw [same]
          exact p.profile?_putProfile has after u

/-- After `finish` the thread has no profile, whether or not its report could be written. -/
theorem profile?_finish (t u : ThreadId) :
    (p.finish t).profiler.roster.profile? u = if u = t then none else p.roster.profile? u := by
  cases has : p.roster.profile? t with
  | none =>
    simp only [finish, Roster.dismiss_found, has]
    split
    · next own => rw [own]; exact has
    · rfl
  | some c =>
    simp only [finish, Roster.dismiss_found, has]
    exact Roster.profile?_dismiss _

/-! ### Other threads -/

theorem profile?_start_of_ne (other : u ≠ t) (origin : String)
    (kindCode startLine endLine task : Int32) (mask : UInt64) :
    (p.start t origin kindCode startLine endLine task mask).profiler.roster.profile? u =
      p.roster.profile? u := by
  cases known : RegionKind.ofCode? kindCode with
  | none =>
    rw [p.start_of_unknown known]
    rfl
  | some kind =>
    rcases p.start_cases (t := t) known startLine endLine task mask with
      ⟨-, same⟩ | ⟨_, _, _, -, -, -, profiles⟩
    · exact same u
    · rw [profiles u, if_neg other]

theorem profile?_stop_of_ne (other : u ≠ t) (kindCode line : Int32) :
    (p.stop t kindCode line).profiler.roster.profile? u = p.roster.profile? u := by
  cases has : p.roster.profile? t with
  | none =>
    rw [p.stop_of_none has]
    rfl
  | some c =>
    cases hs : c.stack with
    | nil => exact (p.stop_of_empty has hs kindCode line).2 u
    | cons frame rest => rw [(p.stop_of_cons has hs kindCode line).2 u, if_neg other]

theorem profile?_observe_of_ne (other : u ≠ t) (operation : Operation) (note : String)
    (line : Int32) (mask : UInt64) (kindCode : Int32) :
    (p.observe operation t note line mask kindCode).profiler.roster.profile? u =
      p.roster.profile? u := by
  rcases p.observe_cases operation note line mask kindCode with same | ⟨_, -, profiles⟩
  · exact same u
  · rw [profiles u, if_neg other]

/-- A call reaches the profile of its own thread and no other. -/
theorem profile?_perform_of_ne (other : u ≠ t) (call : Call) :
    (p.perform t call).profiler.roster.profile? u = p.roster.profile? u := by
  cases call with
  | declare origin line width flags =>
    rcases p.declare_cases origin line width flags with same | ⟨_, -, profiles⟩
    · exact same u
    · exact (profiles u).trans (if_neg other)
  | start origin kind startLine endLine task mask =>
    exact p.profile?_start_of_ne other origin kind startLine endLine task mask
  | stop kind line => exact p.profile?_stop_of_ne other kind line
  | iteration note line mask kind =>
    exact p.profile?_observe_of_ne other .iteration note line mask kind
  | branch note line mask kind => exact p.profile?_observe_of_ne other .branch note line mask kind
  | finish => exact (p.profile?_finish t u).trans (if_neg other)

end Profiler

end SimdProfile

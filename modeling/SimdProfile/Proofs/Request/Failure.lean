import Mathlib.Tactic.SplitIfs
import SimdProfile.Proofs.Request.Attendance

/-!
# Requests that fail

A request that is answered with an error leaves the profiler as it was, except that the counters may have
been asked in vain: for a snapshot that was not needed, or to be programmed. To end a profile whose report
cannot be written is the one exception. And only a profile that is begun while there is none can fail in
a way that must stop the host program, exactly if the counters cannot be programmed.
-/

namespace SimdProfile

/-- If a thread cannot be enlisted, nothing has happened but an attempt to program the counters. -/
theorem Roster.enlist_error {r : Roster} {t : ThreadId} {d : Declaration} {e : Error}
    (failed : (r.enlist t d).2.1 = .error e) :
    (r.enlist t d).1 =
      { r with service := { r.service with attempts := r.service.attempts + 1 } } := by
  unfold enlist at failed ⊢
  split at failed
  · cases failed
  · next foreign =>
    simp only [if_neg foreign]
    cases known : r.handle? t with
    | some handle =>
      rw [known] at failed
      cases failed
    | none =>
      rw [known] at failed
      unfold claim at failed ⊢
      rw [known] at failed ⊢
      cases r.service.admits with
      | refuses first e' outcome after =>
        simp only [outcome, after]
      | programs first outcome after | joins first outcome after =>
        simp only [outcome] at failed
        cases failed

namespace Profiler

variable {p : Profiler} {t : ThreadId} {r : Request} {c : ThreadProfile}

/-! ### What a failure leaves -/

/-- Everything is as before, except how often the counters were asked for a snapshot or to be
programmed. -/
def Untouched (p after : Profiler) : Prop :=
  ∃ attempts taken, after =
    { p with
      roster := { p.roster with
        service := { p.roster.service with attempts := attempts, taken := taken } } }

theorem Untouched.refl (p : Profiler) : p.Untouched p := ⟨_, _, rfl⟩

theorem untouched_snapshotIf (p : Profiler) (wanted : Bool) : p.Untouched (p.snapshotIf wanted).1 := by
  rw [snapshotIf_eq]
  exact ⟨_, _, rfl⟩

/-- The profile of a thread is gone, with its user of the counters, and all others are there. -/
structure Dismissed (t : ThreadId) (p after : Profiler) : Prop where
  cells : after.roster.cells = p.roster.cells.filter (·.1 ≠ t)
  users : after.roster.service.users + 1 = p.roster.service.users

theorem error_of_map {ε α β : Type} {x : Except ε α} {f : α → β} {e : ε}
    (failed : x.map f = .error e) : x = .error e := by
  cases x with
  | error e' => exact congrArg _ (Except.error.inj failed)
  | ok a => cases failed

theorem untouched_enlist {d : Declaration} {e : Error} (failed : (p.roster.enlist t d).2.1 = .error e) :
    p.Untouched { p with roster := (p.roster.enlist t d).1 } := by
  rw [Roster.enlist_error failed]
  exact ⟨_, _, rfl⟩

variable {e : Error}

theorem untouched_declare {origin : String} {line width : Int32} {flags : UInt32}
    (failed : (p.declare t origin line width flags).result = .error e) :
    p.Untouched (p.declare t origin line width flags).profiler := by
  unfold declare at failed ⊢
  split at failed
  · exact .refl p
  · exact untouched_enlist (error_of_map failed)

theorem untouched_start {origin : String} {kindCode startLine endLine task : Int32} {mask : UInt64}
    (failed : (p.start t origin kindCode startLine endLine task mask).result = .error e) :
    p.Untouched (p.start t origin kindCode startLine endLine task mask).profiler := by
  cases known : RegionKind.ofCode? kindCode with
  | none =>
    rw [p.start_of_unknown known]
    exact .refl p
  | some kind =>
    cases library : p.roster.isLibrary origin with
    | true =>
      rw [p.start_of_library known library] at failed
      cases failed
    | false =>
      cases enlisted : (p.roster.enlist t ⟨origin, startLine, p.laneWidth, p.flags⟩).2.1 with
      | error e' =>
        rw [p.start_of_failed known library enlisted]
        exact untouched_enlist enlisted
      | ok handle =>
        -- A thread that is enlisted enters its region, which cannot fail.
        unfold start at failed
        simp only [known, library, Bool.false_eq_true, if_false, enlisted] at failed
        split at failed
        · next refused => cases refused
        all_goals cases failed

theorem untouched_stop {kindCode line : Int32} (failed : (p.stop t kindCode line).result = .error e) :
    p.Untouched (p.stop t kindCode line).profiler := by
  cases has : p.roster.profile? t with
  | none =>
    rw [p.stop_of_none has]
    exact .refl p
  | some c =>
    simp only [stop, has] at failed ⊢
    split at failed
    · exact untouched_snapshotIf p _
    · cases failed

theorem untouched_observe {operation : Operation} {note : String} {line kindCode : Int32}
    {mask : UInt64} (failed : (p.observe operation t note line mask kindCode).result = .error e) :
    p.Untouched (p.observe operation t note line mask kindCode).profiler := by
  unfold observe at failed ⊢
  split at failed
  · exact .refl p
  · split at failed
    · exact .refl p
    · split at failed
      · cases failed
      · next recorded =>
        rw [if_neg recorded]
        split at failed
        · exact .refl p
        · cases failed

/-- A profile that cannot be written is gone all the same. -/
theorem dismissed_finish (attended : p.roster.Attended) (has : p.roster.profile? t = some c) :
    p.Dismissed t (p.finish t).profiler ∧ (p.finish t).result = (p.archive.write c.report).2.1 := by
  obtain ⟨cell, found, profile⟩ := Option.map_eq_some_iff.mp has
  have gone : (p.roster.dismiss t).2.1 = some c := by rw [Roster.dismiss_found, has]
  have cells : (p.roster.dismiss t).1.cells = p.roster.cells.filter (·.1 ≠ t) ∧
      (p.roster.dismiss t).1.service = p.roster.service.dropUser.1 := by
    simp only [Roster.dismiss, found, and_self]
  have member := Roster.mem_threads_of_cell? found
  have fewer := (Roster.threads_filter attended.distinct member cells.1).2
  have dropped := Counters.Service.dropUser_eq (attended.users.trans fewer.symm)
  simp only [finish, gone]
  refine ⟨⟨cells.1, ?_⟩, trivial⟩
  rw [cells.2, dropped, attended.users, fewer]

/-- What a request that fails leaves. -/
theorem serve_of_error (attended : p.roster.Attended) (failed : (p.serve t r).result = .error e) :
    p.Untouched (p.serve t r).profiler ∨
      r.operation = .finish ∧ p.Dismissed t (p.serve t r).profiler ∧
        ∃ c, p.roster.profile? t = some c ∧ (p.archive.write c.report).2.1 = .error e := by
  unfold serve at failed ⊢
  cases read : r.read with
  | error e' => exact .inl (.refl p)
  | ok call =>
    rw [read] at failed
    rw [← Request.operation_of_read read]
    cases call with
    | declare origin line width flags => exact .inl (untouched_declare (error_of_map failed))
    | start origin kindCode startLine endLine task mask =>
      exact .inl (untouched_start (error_of_map failed))
    | stop kindCode line => exact .inl (untouched_stop (error_of_map failed))
    | iteration note line mask kindCode => exact .inl (untouched_observe (error_of_map failed))
    | branch note line mask kindCode => exact .inl (untouched_observe (error_of_map failed))
    | finish =>
      cases has : p.roster.profile? t with
      | none =>
        refine .inl ?_
        simp only [perform, Reply.map, finish, Roster.dismiss_found, has]
        exact .refl p
      | some c =>
        obtain ⟨dismissed, result⟩ := dismissed_finish attended has
        exact .inr ⟨rfl, dismissed, c, rfl, result.symm.trans (error_of_map failed)⟩

end Profiler

/-! ### Fatal errors -/

/-- A result that does not stop the host program. -/
def Harmless (result : Except Error Answer) : Prop := ∀ e, result = .error e → e.isFatal = false

namespace Request

variable {r : Request} {c : ThreadProfile} {terms : Terms} {next : Snapshot}

theorem harmless_of_read {e : Error} (unread : r.read = .error e) : e.isFatal = false := by
  have text (what : String) (argument : Host.TextArgument) {e : Error}
      (refused : Host.readText what argument = .error e) : e.isFatal = false := by
    unfold Host.readText at refused
    split at refused
    · cases refused
      rfl
    · split at refused
      · cases refused
      · cases refused
        rfl
  cases r with
  | direct call => cases unread
  | hosted call =>
    cases call with
    | declare origin => exact text _ origin (Profiler.error_of_map unread)
    | start origin => exact text _ origin (Profiler.error_of_map unread)
    | stop | iteration | branch | finish => cases unread

theorem harmless_observed (c : ThreadProfile) (line kindCode : Int32) :
    Harmless (Call.observed c line kindCode) := by
  intro e failed
  unfold Call.observed at failed
  split at failed
  · cases failed
    rfl
  · split_ifs at failed
    cases failed
    rfl

/-- What a request is answered from a profile does not stop the host program. -/
theorem harmless_answer : Harmless (r.answer terms next c) := by
  intro e failed
  unfold answer at failed
  cases read : r.read with
  | error e' =>
    rw [read] at failed
    cases failed
    exact harmless_of_read read
  | ok call =>
    rw [read] at failed
    cases call with
    | declare origin line width flags =>
      simp only [Call.answer] at failed
      split_ifs at failed
      cases failed
      rfl
    | start origin kindCode startLine endLine task mask =>
      simp only [Call.answer] at failed
      split at failed
      · cases failed
        rfl
      · cases failed
    | stop kindCode line =>
      simp only [Call.answer] at failed
      split_ifs at failed
      cases failed
      rfl
    | iteration note line mask kindCode => exact harmless_observed c line kindCode e failed
    | branch note line mask kindCode => exact harmless_observed c line kindCode e failed
    | finish =>
      cases failed
      rfl

theorem harmless_answerWithout : Harmless r.answerWithout := by
  have unobserved (operation : Operation) (kindCode : Int32) :
      (Call.unobserved operation kindCode).isFatal = false := by
    unfold Call.unobserved
    split_ifs <;> rfl
  intro e failed
  unfold answerWithout at failed
  cases read : r.read with
  | error e' =>
    rw [read] at failed
    cases failed
    exact harmless_of_read read
  | ok call =>
    rw [read] at failed
    cases call with
    | declare origin line width flags =>
      simp only [Call.answerWithout] at failed
      split_ifs at failed
      cases failed
      rfl
    | start origin kindCode startLine endLine task mask =>
      simp only [Call.answerWithout] at failed
      split_ifs at failed
      cases failed
      rfl
    | iteration note line mask kindCode =>
      cases failed
      exact unobserved .iteration kindCode
    | branch note line mask kindCode =>
      cases failed
      exact unobserved .branch kindCode
    | stop | finish =>
      cases failed
      rfl

end Request

namespace Profiler

variable {p : Profiler} {t : ThreadId} {r : Request} {c : ThreadProfile}

/-- The first user fails exactly if the counters cannot be programmed, with a fatal error whatever the
reason. -/
theorem addUser_error_iff {s : Counters.Service} {e : Error} :
    s.addUser.2.1 = .error e ↔ s.users = 0 ∧ ∃ failure, s.source.failure? s.attempts = some failure ∧
      e = Counters.Service.programmingError failure := by
  unfold Counters.Service.addUser
  by_cases first : s.users = 0
  · rw [if_pos first]
    cases s.source.failure? s.attempts with
    | none => simp
    | some failure => simp [first, eq_comm]
  · rw [if_neg first]
    simp [first]

theorem isFatal_programmingError (failure : Error) :
    (Counters.Service.programmingError failure).isFatal = true := by
  cases failure <;> rfl

/-- Without profiles a thread has none. -/
theorem profile?_of_empty (empty : p.roster.cells = []) (t : ThreadId) :
    p.roster.profile? t = none := by
  rw [Roster.profile?, Roster.cell?, empty]
  rfl

theorem users_eq_zero_iff (attended : p.roster.Attended) :
    p.roster.service.users = 0 ↔ p.roster.cells = [] := by
  rw [attended.users, Roster.size, List.length_eq_zero_iff]

/-- A request that would begin the first profile is answered with the failure to program the counters. -/
theorem serve_of_unprogrammable (attended : p.roster.Attended) (empty : p.roster.cells = [])
    (begins : (r.declaration? p.terms).isSome) {failure : Error}
    (fails : p.terms.source.failure? p.roster.service.attempts = some failure) :
    (p.serve t r).result = .error (Counters.Service.programmingError failure) := by
  obtain ⟨d, begins⟩ := Option.isSome_iff_exists.mp begins
  have first := (users_eq_zero_iff attended).mpr empty
  exact (serve_of_refuses (profile?_of_empty empty t) begins
    (addUser_error_iff.mpr ⟨first, failure, fails, rfl⟩)).result

/-- Only a request that would begin the first profile can be answered with a fatal error. -/
theorem unprogrammable_of_fatal (attended : p.roster.Attended) {e : Error}
    (failed : (p.serve t r).result = .error e) (fatal : e.isFatal = true) :
    (r.declaration? p.terms).isSome ∧ p.roster.cells = [] ∧
      ∃ failure, p.terms.source.failure? p.roster.service.attempts = some failure := by
  have harmful {result : Except Error Answer} (harmless : Harmless result)
      (same : (p.serve t r).result = result) : False := by
    rw [harmless e (same.symm.trans failed)] at fatal
    cases fatal
  cases has : p.roster.profile? t with
  | some c =>
    exfalso
    by_cases finish : r.operation = .finish
    · have result := (serve_of_finish has finish).1.result
      rw [failed] at result
      obtain ⟨path, fault, rfl⟩ := Archive.write_error (error_of_map result.symm)
      cases fatal
    · exact harmful Request.harmless_answer (serve_of_some has finish).result
  | none =>
    cases begins : r.declaration? p.terms with
    | none => exact (harmful Request.harmless_answerWithout (serve_of_none has begins).result).elim
    | some d =>
      cases programmed : p.roster.service.addUser.2.1 with
      | ok => exact (harmful Request.harmless_answer (serve_of_accepts has begins programmed).result).elim
      | error e' =>
        obtain ⟨first, failure, fails, -⟩ := addUser_error_iff.mp programmed
        exact ⟨rfl, (users_eq_zero_iff attended).mp first, failure, fails⟩

/-- After any requests, a request that fails leaves the profiler untouched, except that to end a profile
whose report cannot be written removes this profile and its user of the counters and nothing else. Its
error is fatal exactly if it would begin the first profile, by a declaration or a start that is accepted
and does not come from the library, and the counters cannot be programmed, for whatever reason. -/
theorem failed_request_leaves_profiler (s : Settings) (source : Counters.Source) (begun : Moment)
    (disk : FileTree) (w : List (ThreadId × Request)) (t : ThreadId) (r : Request) :
    let p := (create s source begun disk).serveAll w
    let reply := p.serve t r
    (∀ e, reply.result = .error e →
      p.Untouched reply.profiler ∨
        r.operation = .finish ∧ p.Dismissed t reply.profiler ∧
          ∃ c, p.roster.profile? t = some c ∧ (p.archive.write c.report).2.1 = .error e) ∧
    ((∃ e, reply.result = .error e ∧ e.isFatal = true) ↔
      (r.declaration? p.terms).isSome ∧ p.roster.cells = [] ∧
        ∃ failure, source.failure? p.roster.service.attempts = some failure) ∧
    ∀ failure, (r.declaration? p.terms).isSome → p.roster.cells = [] →
      source.failure? p.roster.service.attempts = some failure →
        reply.result = .error (Counters.Service.programmingError failure) := by
  intro p reply
  have attended : p.roster.Attended := attended_reached s source begun disk w
  have same : p.terms.source = source := congrArg Terms.source (terms_serveAll _ w)
  have programming {failure : Error} (begins : (r.declaration? p.terms).isSome)
      (empty : p.roster.cells = [])
      (fails : source.failure? p.roster.service.attempts = some failure) :
      reply.result = .error (Counters.Service.programmingError failure) :=
    serve_of_unprogrammable attended empty begins (same.symm ▸ fails)
  refine ⟨fun e failed => serve_of_error attended failed, ?_, fun failure => programming⟩
  constructor
  · rintro ⟨e, failed, fatal⟩
    rw [← same]
    exact unprogrammable_of_fatal attended failed fatal
  · rintro ⟨begins, empty, failure, fails⟩
    exact ⟨_, programming begins empty fails, isFatal_programmingError failure⟩

/-- Counters that can be programmed once, and then fail with an error that is not theirs. -/
def onceProgrammable : Counters.Source :=
  { Counters.Source.disabled with
    failure? := fun attempt => if attempt = 0 then none else some (.unbalancedEnd 3) }

/-- One thread has ended its profile, and another one starts when the counters cannot be programmed. -/
theorem second_programming_leaves_profiler :
    let t : ThreadId := ⟨1⟩
    let u : ThreadId := ⟨2⟩
    let start : Request := .direct (.start "kernel.ispc" 4 3 9 0 0xff)
    let p := (create .default onceProgrammable ⟨2024, 1, 2, 3, 4, 5⟩ .empty).serveAll
      [(t, start), (t, .direct .finish)]
    let failure : Error := Counters.Service.programmingError (.unbalancedEnd 3)
    p.roster.cells = [] ∧ (start.declaration? p.terms).isSome ∧
      onceProgrammable.failure? p.roster.service.attempts = some (.unbalancedEnd 3) ∧
      (p.serve u start).result = .error failure ∧ failure.isFatal = true ∧
      p.Untouched (p.serve u start).profiler := by
  intro t u start p failure
  have empty : p.roster.cells = [] := List.isEmpty_iff.mp (by decide +kernel)
  have begins : (start.declaration? p.terms).isSome := by decide +kernel
  have fails : onceProgrammable.failure? p.roster.service.attempts = some (.unbalancedEnd 3) := by
    decide +kernel
  obtain ⟨leaves, fatal, result⟩ := failed_request_leaves_profiler .default onceProgrammable
    ⟨2024, 1, 2, 3, 4, 5⟩ .empty [(t, start), (t, .direct .finish)] u start
  have failed := result (.unbalancedEnd 3) begins empty fails
  obtain ⟨e, same, isFatal⟩ := fatal.mpr ⟨begins, empty, _, fails⟩
  refine ⟨empty, begins, fails, failed, ?_, ?_⟩
  · rw [failed] at same
    cases same
    exact isFatal
  · rcases leaves failure failed with untouched | ⟨finish, -⟩
    · exact untouched
    · cases finish

end Profiler

end SimdProfile

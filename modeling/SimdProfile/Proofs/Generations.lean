import SimdProfile.Proofs.Archive.Descent
import SimdProfile.Proofs.Isolation
import SimdProfile.Proofs.Request.Failure

/-!
# Generations of profiles

To end a profile is to begin anew. Whatever was open, and whether or not its report could be written, the
thread is left without a profile and with one user of the counters less, and what it does from then on is
what it would do had it never made a request before. Two profilers are followed through the same requests,
one in which the thread has ended its profile and one in which its requests were left out. What the other
threads have may differ between them, as the counters may fail for one and not for the other, but none of
this shows in the turns of the thread.
-/

namespace SimdProfile

namespace Turn

/-- Whether a turn was answered with a fatal error. -/
def isFatal (x : Turn) : Bool := Host.isFatal x.reply.result

/-- The report of a profile that a turn has ended is in the file the turn was answered with, if any. -/
def Files (x : Turn) (c : ThreadProfile) : Prop :=
  ∀ path, x.reply.result = .ok (.written path) →
    x.reply.profiler.archive.disk.read path = .ok c.report.text.toUTF8

/-- Two turns have ended the profiles `c` and `d`, with reports that are the same but for the values of the
counters. Both are answered as the archive `base` answers such a report for some copy. -/
structure EndedAlike (base : Archive) (x y : Turn) (c d : ThreadProfile) : Prop where
  uncounted : c.report.uncounted = d.report.uncounted
  unsampled : c.readsCounters = false → c.report = d.report
  results : ∃ m n, x.reply.result = (base.verdict c.report m).map .written ∧
    y.reply.result = (base.verdict c.report n).map .written
  files : x.Files c ∧ y.Files d

/-- Two turns of one request are answered alike, unless for both the counters could not be programmed, end
profiles alike and leave profiles alike. -/
structure Repeats (base : Archive) (x y : Turn) : Prop where
  thread : x.thread = y.thread
  request : x.request = y.request
  answers : x.ended? = none →
    x.reply.result = y.reply.result ∨ x.isFatal = true ∧ y.isFatal = true
  reports : Option.Rel (EndedAlike base x y) x.ended? y.ended?
  profiles : x.profile?.map (fun c => (c.declaredTask, c.outline)) =
    y.profile?.map fun c => (c.declaredTask, c.outline)
  unsampled : ∀ c, x.profile? = some c → c.readsCounters = false → y.profile? = some c

end Turn

namespace Profiler

variable {p q : Profiler} {base : Archive} {t u : ThreadId} {r : Request} {c d : ThreadProfile}

/-! ### What comes of the archive -/

theorem archive_observe (operation : Operation) (t : ThreadId) (note : String) (line : Int32)
    (mask : UInt64) (kindCode : Int32) :
    (p.observe operation t note line mask kindCode).profiler.archive = p.archive := by
  unfold observe
  split
  · rfl
  · split
    · rfl
    · split
      · rfl
      · split <;> rfl

theorem archive_snapshotIf (p : Profiler) (wanted : Bool) : (p.snapshotIf wanted).1.archive = p.archive := by
  rw [snapshotIf_eq]

theorem archive_start (t : ThreadId) (origin : String) (kindCode startLine endLine task : Int32)
    (mask : UInt64) :
    (p.start t origin kindCode startLine endLine task mask).profiler.archive = p.archive := by
  unfold start
  split
  · rfl
  · split
    · rfl
    · dsimp only
      split
      · rfl
      · rfl
      · exact archive_snapshotIf _ _

/-- The archive is left alone, or a report is written to it. -/
theorem archive_perform (p : Profiler) (t : ThreadId) (call : Call) :
    (p.perform t call).profiler.archive = p.archive ∨
      ∃ report, (p.perform t call).profiler.archive = (p.archive.write report).1 := by
  cases call with
  | declare origin line width flags =>
    simp only [perform, Reply.map, declare]
    split <;> exact .inl rfl
  | start origin kindCode startLine endLine task mask =>
    exact .inl (archive_start t origin kindCode startLine endLine task mask)
  | stop kindCode line =>
    simp only [perform, Reply.map, stop]
    split
    · exact .inl rfl
    · split <;> exact .inl (archive_snapshotIf _ _)
  | iteration note line mask kindCode =>
    exact .inl (archive_observe .iteration t note line mask kindCode)
  | branch note line mask kindCode => exact .inl (archive_observe .branch t note line mask kindCode)
  | finish =>
    simp only [perform, Reply.map, finish]
    split
    · exact .inl rfl
    · next c _ => exact .inr ⟨c.report, rfl⟩

theorem descends_serve (h : base.Descends p.archive) (t : ThreadId) (r : Request) :
    base.Descends (p.serve t r).profiler.archive := by
  unfold serve
  split
  · next call _ =>
    rcases p.archive_perform t call with same | ⟨report, written⟩
    · rwa [same]
    · rw [written]
      exact h.write report
  · exact h

theorem descends_serveAll (h : base.Descends p.archive) (w : List (ThreadId × Request)) :
    base.Descends (p.serveAll w).archive := by
  induction w generalizing p with
  | nil => exact h
  | cons x w ih => exact ih (descends_serve h x.1 x.2)

/-! ### One request -/

/-- As thread `t` sees them the two profilers are one, up to the values of the counters, their readiness
and the copies of reports. -/
structure Renewed (t : ThreadId) (base : Archive) (p q : Profiler) : Prop where
  terms : p.terms = q.terms
  archives : base.Descends p.archive ∧ base.Descends q.archive
  profiles : Option.Rel Twins (p.roster.profile? t) (q.roster.profile? t)

namespace Renewed

/-- What other threads do does not show, even if it turns out differently. -/
theorem other (h : Renewed t base p q) (differs : u ≠ t) (r : Request) :
    Renewed t base (p.serve u r).profiler (q.serve u r).profiler where
  terms := ((p.terms_serve u r).1.trans h.terms).trans (q.terms_serve u r).1.symm
  archives := ⟨descends_serve h.archives.1 u r, descends_serve h.archives.2 u r⟩
  profiles := by
    rw [p.profile?_serve_of_ne (Ne.symm differs), q.profile?_serve_of_ne (Ne.symm differs)]
    exact h.profiles

/-- What a request of the thread comes to. -/
structure Outcome (t : ThreadId) (base : Archive) (p q : Profiler) (r : Request) : Prop where
  answers : (p.turn t r).ended? = none →
    (p.serve t r).result = (q.serve t r).result ∨
      (p.turn t r).isFatal = true ∧ (q.turn t r).isFatal = true
  reports : Option.Rel (Turn.EndedAlike base (p.turn t r) (q.turn t r)) (p.turn t r).ended?
    (q.turn t r).ended?
  profiles : Option.Rel Twins ((p.serve t r).profiler.roster.profile? t)
    ((q.serve t r).profiler.roster.profile? t)

theorem ended_of_none (has : p.roster.profile? t = none) : (p.turn t r).ended? = none := by
  unfold Turn.ended?
  split
  · exact has
  · rfl

/-- A thread that has ended its profile is answered with a copy, and finds its report there. -/
theorem files_of_finish (has : p.roster.profile? t = some c) (finish : r.operation = .finish) :
    (p.turn t r).Files c := by
  obtain ⟨effect, archive⟩ := serve_of_finish has finish
  intro path result
  have written : (p.archive.write c.report).2.1 = .ok path := by
    have same := effect.result.symm.trans result
    cases outcome : (p.archive.write c.report).2.1 with
    | error e =>
      rw [outcome] at same
      cases same
    | ok other =>
      rw [outcome] at same
      cases same
      rfl
  show (p.serve t r).profiler.archive.disk.read path = _
  rw [archive]
  exact (Archive.read_of_write written).2

theorem outcome_of_finish (h : Renewed t base p q) (hasP : p.roster.profile? t = some c)
    (hasQ : q.roster.profile? t = some d) (twins : Twins c d) (finish : r.operation = .finish) :
    Outcome t base p q r := by
  have endedP : (p.turn t r).ended? = some c := (if_pos finish).trans hasP
  have endedQ : (q.turn t r).ended? = some d := (if_pos finish).trans hasQ
  have effectP := (serve_of_finish hasP finish).1
  have effectQ := (serve_of_finish hasQ finish).1
  obtain ⟨m, resultP⟩ := h.archives.1.result_eq c.report
  obtain ⟨n, resultQ⟩ := h.archives.2.result_eq d.report
  have names : d.report.Namesake c.report :=
    Report.namesake_of_uncounted twins.uncounted_report.symm
  rw [base.verdict_of_namesake names] at resultQ
  refine ⟨fun goes => ?_, ?_, ?_⟩
  · rw [endedP] at goes
    cases goes
  · rw [endedP, endedQ]
    refine .some ⟨twins.uncounted_report, fun reads => congrArg ThreadProfile.report (twins.eq reads),
      ⟨m, n, ?_, ?_⟩, files_of_finish hasP finish, files_of_finish hasQ finish⟩
    · exact effectP.result.trans (congrArg _ resultP)
    · exact effectQ.result.trans (congrArg _ resultQ)
  · rw [effectP.own, effectQ.own]
    exact .none

/-- Calls alike on twins leave twins. -/
theorem outcome_of_agree (endedP : (p.turn t r).ended? = none) (endedQ : (q.turn t r).ended? = none)
    (twins : Twins c d) (agree : Agree p q t r c d) : Outcome t base p q r := by
  obtain ⟨result, as, bs, alike, afterP, afterQ⟩ := agree
  refine ⟨fun _ => .inl result, ?_, ?_⟩
  · rw [endedP, endedQ]
    exact .none
  · rw [afterP, afterQ]
    exact .some (twins.run alike)

theorem isFatal_of_refuses {declared : Declaration} (has : p.roster.profile? t = none)
    (begins : r.declaration? p.terms = some declared) {e : Error}
    (refused : p.roster.service.addUser.2.1 = .error e) : (p.turn t r).isFatal = true := by
  obtain ⟨-, failure, -, rfl⟩ := addUser_error_iff.mp refused
  show Host.isFatal (p.serve t r).result = true
  rw [(serve_of_refuses has begins refused).result]
  exact isFatal_programmingError failure

theorem not_isFatal_of_accepts {declared : Declaration} (has : p.roster.profile? t = none)
    (begins : r.declaration? p.terms = some declared)
    (accepted : p.roster.service.addUser.2.1 = .ok ()) : (p.turn t r).isFatal = false := by
  show Host.isFatal (p.serve t r).result = false
  rw [(serve_of_accepts has begins accepted).result]
  cases answered : r.answer p.terms p.nextSnapshot (.create t declared) with
  | ok answer => rfl
  | error e => exact Request.harmless_answer e answered

/-- Two threads without profiles begin one each, or neither does: the counters fail for both or for none, as
only then both turns are fatal or neither is. -/
theorem outcome_of_none (terms : p.terms = q.terms) (hasP : p.roster.profile? t = none)
    (hasQ : q.roster.profile? t = none)
    (fatal : (p.turn t r).isFatal = (q.turn t r).isFatal) : Outcome t base p q r := by
  have endedP := ended_of_none (r := r) hasP
  have endedQ := ended_of_none (r := r) hasQ
  have neither (goneP : (p.serve t r).profiler.roster.profile? t = none)
      (goneQ : (q.serve t r).profiler.roster.profile? t = none)
      (answers : (p.serve t r).result = (q.serve t r).result ∨
        (p.turn t r).isFatal = true ∧ (q.turn t r).isFatal = true) : Outcome t base p q r := by
    refine ⟨fun _ => answers, ?_, ?_⟩
    · rw [endedP, endedQ]
      exact .none
    · rw [goneP, goneQ]
      exact .none
  cases begins : r.declaration? p.terms with
  | none =>
    have effectP := serve_of_none hasP begins
    have effectQ := serve_of_none hasQ (terms ▸ begins)
    exact neither effectP.own effectQ.own (.inl (effectP.result.trans effectQ.result.symm))
  | some declared =>
    have begins' : r.declaration? q.terms = some declared := terms ▸ begins
    cases programmedP : p.roster.service.addUser.2.1 with
    | ok =>
      cases programmedQ : q.roster.service.addUser.2.1 with
      | ok =>
        exact outcome_of_agree endedP endedQ (.create t declared)
          (agree_of_accepts terms hasP hasQ begins programmedP programmedQ)
      | error e =>
        rw [not_isFatal_of_accepts hasP begins programmedP,
          isFatal_of_refuses hasQ begins' programmedQ] at fatal
        cases fatal
    | error e =>
      have fatalP := isFatal_of_refuses hasP begins programmedP
      cases programmedQ : q.roster.service.addUser.2.1 with
      | ok =>
        rw [fatalP, not_isFatal_of_accepts hasQ begins' programmedQ] at fatal
        cases fatal
      | error e' =>
        exact neither (serve_of_refuses hasP begins programmedP).own
          (serve_of_refuses hasQ begins' programmedQ).own
          (.inr ⟨fatalP, isFatal_of_refuses hasQ begins' programmedQ⟩)

theorem outcome (h : Renewed t base p q) (r : Request)
    (fatal : (p.turn t r).isFatal = (q.turn t r).isFatal) : Outcome t base p q r := by
  have profiles := h.profiles
  cases hasP : p.roster.profile? t with
  | none =>
    cases hasQ : q.roster.profile? t with
    | none => exact outcome_of_none h.terms hasP hasQ fatal
    | some d =>
      rw [hasP, hasQ] at profiles
      cases profiles
  | some c =>
    cases hasQ : q.roster.profile? t with
    | none =>
      rw [hasP, hasQ] at profiles
      cases profiles
    | some d =>
      rw [hasP, hasQ] at profiles
      cases profiles with
      | some twins =>
        by_cases finish : r.operation = .finish
        · exact h.outcome_of_finish hasP hasQ twins finish
        · exact outcome_of_agree (if_neg finish) (if_neg finish) twins
            (agree_of_some h.terms hasP hasQ twins.outline finish)

theorem own (h : Renewed t base p q) (r : Request)
    (fatal : (p.turn t r).isFatal = (q.turn t r).isFatal) :
    Renewed t base (p.serve t r).profiler (q.serve t r).profiler where
  terms := ((p.terms_serve t r).1.trans h.terms).trans (q.terms_serve t r).1.symm
  archives := ⟨descends_serve h.archives.1 t r, descends_serve h.archives.2 t r⟩
  profiles := (h.outcome r fatal).profiles

theorem repeats (h : Renewed t base p q) (r : Request)
    (fatal : (p.turn t r).isFatal = (q.turn t r).isFatal) :
    Turn.Repeats base (p.turn t r) (q.turn t r) where
  thread := rfl
  request := rfl
  answers := (h.outcome r fatal).answers
  reports := (h.outcome r fatal).reports
  profiles := Twins.shown_eq (h.outcome r fatal).profiles
  unsampled _ has reads := Twins.eq_of_unsampled (h.outcome r fatal).profiles has reads

end Renewed

/-! ### Any row of requests -/

/-- The turns of one thread. -/
def turnsOf (t : ThreadId) (p : Profiler) (w : List (ThreadId × Request)) : List Turn :=
  (p.history w).filter (·.thread = t)

theorem turnsOf_cons_self (t : ThreadId) (p : Profiler) (r : Request) (w : List (ThreadId × Request)) :
    turnsOf t p ((t, r) :: w) = p.turn t r :: turnsOf t (p.serve t r).profiler w := by
  simp [turnsOf, history]

theorem turnsOf_cons_of_ne (differs : u ≠ t) (p : Profiler) (r : Request)
    (w : List (ThreadId × Request)) :
    turnsOf t p ((u, r) :: w) = turnsOf t (p.serve u r).profiler w := by
  simp [turnsOf, history, differs]

/-- The turns of the thread are the same in both profilers, as long as the counters can be programmed for
both or for neither. -/
theorem Renewed.history (h : Renewed t base p q) (v : List (ThreadId × Request))
    (fatal : (turnsOf t p v).map (·.isFatal) = (turnsOf t q v).map (·.isFatal)) :
    List.Forall₂ (Turn.Repeats base) (turnsOf t p v) (turnsOf t q v) := by
  induction v generalizing p q with
  | nil => exact .nil
  | cons x v ih =>
    obtain ⟨u, r⟩ := x
    by_cases own : u = t
    · subst own
      rw [turnsOf_cons_self, turnsOf_cons_self] at fatal ⊢
      obtain ⟨first, rest⟩ := List.cons.inj fatal
      exact .cons (h.repeats r first) (ih (h.own r first) rest)
    · rw [turnsOf_cons_of_ne own, turnsOf_cons_of_ne own] at fatal ⊢
      exact ih (h.other own r) fatal

/-- A thread that has made no request has no profile. -/
theorem profile?_serveAll_of_absent {w : List (ThreadId × Request)} (absent : ∀ x ∈ w, x.1 ≠ t) :
    (p.serveAll w).roster.profile? t = p.roster.profile? t := by
  induction w generalizing p with
  | nil => rfl
  | cons x w ih =>
    have rest := ih (p := (p.serve x.1 x.2).profiler) fun y member => absent y (.tail x member)
    exact rest.trans (p.profile?_serve_of_ne (Ne.symm (absent x (.head w))) x.2)

/-- To end a profile, with whatever is open on it, removes it and one user of the counters and nothing of
the other threads, whether or not its report can be written. From then on the turns of the thread, among any
turns of others, are those it would have had if it had never made a request before: the same answers, the
same profiles after them and the same reports, up to the values of the counters and the copies of reports,
and as long as the counters fail for both or for neither. -/
theorem finish_begins_a_new_generation (s : Settings) (source : Counters.Source) (begun : Moment)
    (disk : FileTree) (w v : List (ThreadId × Request)) (t : ThreadId) (r : Request)
    (c : ThreadProfile) :
    let new := create s source begun disk
    let p := new.serveAll w
    let after := (p.serve t r).profiler
    let without := new.serveAll (w.filter (·.1 ≠ t))
    r.operation = .finish → p.roster.profile? t = some c →
      (p.serve t r).result = (p.archive.write c.report).2.1.map .written ∧
      p.Dismissed t after ∧
      (∀ u, after.roster.cell? u = if u = t then none else p.roster.cell? u) ∧
      ((turnsOf t after v).map (·.isFatal) = (turnsOf t without v).map (·.isFatal) →
        List.Forall₂ (Turn.Repeats new.archive) (turnsOf t after v) (turnsOf t without v)) := by
  intro new p after without finish has
  have dismissed : p.Dismissed t after := by
    have ended := (dismissed_finish (attended_reached s source begun disk w) has).1
    show p.Dismissed t (p.serve t r).profiler
    rw [serve, Request.read_finish finish]
    exact ended
  refine ⟨(serve_of_finish has finish).1.result, dismissed, fun u => ?_, fun fatal => ?_⟩
  · rw [Roster.cell?, dismissed.cells, Roster.lookup_filter]
    rfl
  · refine Renewed.history ⟨?_, ⟨?_, ?_⟩, ?_⟩ v fatal
    · exact ((p.terms_serve t r).1.trans (terms_serveAll new w)).trans (terms_serveAll new _).symm
    · exact descends_serve (descends_serveAll (.inl rfl) w) t r
    · exact descends_serveAll (.inl rfl) _
    · have absent : ∀ x ∈ w.filter (·.1 ≠ t), x.1 ≠ t := by
        intro x member
        simpa using (List.mem_filter.mp member).2
      have gone : after.roster.profile? t = none := p.profile?_serve_of_finish finish t
      have never : without.roster.profile? t = none := profile?_serveAll_of_absent absent
      rw [gone, never]
      exact .none

/-- A thread ends its profile with a loop open, while another thread has a profile, and runs the program
again. -/
theorem second_loop_is_a_new_generation :
    let t : ThreadId := ⟨1⟩
    let u : ThreadId := ⟨2⟩
    let start : Request := .direct (.start "kernel.ispc" 4 3 9 7 0xff)
    let see : Request := .direct (.iteration "body" 5 0x0f 4)
    let stop : Request := .direct (.stop 4 9)
    let finish : Request := .direct .finish
    let w := [(t, start), (u, start), (t, see)]
    let v := [(t, see), (t, start), (u, stop), (u, finish), (t, stop), (t, stop), (t, finish)]
    let new := create .default onceProgrammable ⟨2024, 1, 2, 3, 4, 5⟩ .empty
    let p := new.serveAll w
    let after := (p.serve t finish).profiler
    let without := new.serveAll (w.filter (·.1 ≠ t))
    (∃ c, p.roster.profile? t = some c ∧ c.depth = 1) ∧
      (turnsOf t after v).map (·.isFatal) = (turnsOf t without v).map (·.isFatal) ∧
      p.Dismissed t after ∧
      List.Forall₂ (Turn.Repeats new.archive) (turnsOf t after v) (turnsOf t without v) := by
  intro t u start see stop finish w v new p after without
  have depth : (p.roster.profile? t).map (·.depth) = some 1 := by decide +kernel
  obtain ⟨c, has, opened⟩ := Option.map_eq_some_iff.mp depth
  have fatal : (turnsOf t after v).map (·.isFatal) = (turnsOf t without v).map (·.isFatal) := by
    decide +kernel
  obtain ⟨-, dismissed, -, repeats⟩ := finish_begins_a_new_generation .default onceProgrammable
    ⟨2024, 1, 2, 3, 4, 5⟩ .empty w v t finish c rfl has
  exact ⟨⟨c, has, opened⟩, fatal, dismissed, repeats fatal⟩

end Profiler

end SimdProfile

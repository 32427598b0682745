import SimdProfile.Proofs.Report.Name
import SimdProfile.Proofs.Request.Alike

/-!
# Isolation of threads

The turns of a thread among those of others are those that it has by itself, on a profiler with the same
settings: the same answers, the same profiles and the same reports. What the threads share shows in two
places only. The snapshots of the counters are numbered through, so the values of averages differ. And
the names of reports are given out once, so a report may be another copy of its name.
-/

namespace SimdProfile

/-- A record without the values of the counters. -/
def RegionRecord.uncounted (r : RegionRecord) : RegionRecord :=
  { r with ipc := .zero, l2Hit := .zero, l3Hit := .zero, bytesRead := .zero }

/-- A report without the values of the counters. -/
def Report.uncounted (r : Report) : Report :=
  { r with regions := r.regions.map (·.uncounted) }

/-- The name of a report says nothing of the counters. -/
theorem Report.namesake_of_uncounted {a b : Report} (h : a.uncounted = b.uncounted) : a.Namesake b := by
  have file : a.file = b.file := (congrArg Report.file h :)
  refine ⟨?_, (congrArg Report.line h :), (congrArg Report.task h :)⟩
  rw [programName, programName, file]

/-- Two profiles that differ in no more than the values of the counters, and in nothing if they do not
read them. -/
structure Twins (c d : ThreadProfile) : Prop where
  outline : c.outline = d.outline
  task : c.declaredTask = d.declaredTask
  wellFormed : c.WellFormed ∧ d.WellFormed
  unsampled : c.readsCounters = false → c.Unsampled ∧ d.Unsampled

namespace Twins

variable {c d : ThreadProfile}

theorem create (t : ThreadId) (declared : Declaration) :
    Twins (.create t declared) (.create t declared) where
  outline := rfl
  task := rfl
  wellFormed := ⟨ThreadProfile.wellFormed_create t declared, ThreadProfile.wellFormed_create t declared⟩
  unsampled reads := ⟨.create t reads, .create t reads⟩

theorem run (h : Twins c d) {as bs : List Action} (alike : List.Forall₂ Action.Alike as bs) :
    Twins (c.run as) (d.run bs) where
  outline := ThreadProfile.outline_run h.outline alike
  task := ThreadProfile.declaredTask_run h.task alike
  wellFormed := ⟨h.wellFormed.1.run as, h.wellFormed.2.run bs⟩
  unsampled reads := by
    have reads : c.readsCounters = false := by
      rwa [ThreadProfile.readsCounters, c.declaration_run] at reads
    exact ⟨(h.unsampled reads).1.run as, (h.unsampled reads).2.run bs⟩

theorem eq (h : Twins c d) (reads : c.readsCounters = false) : c = d :=
  ThreadProfile.eq_of_outline h.outline h.task (h.unsampled reads).1 (h.unsampled reads).2

/-- The record of a region shows no more than its outline and the values of the counters. -/
theorem uncounted_toRecord {r s : Region} (h : r.outline = s.outline) :
    r.toRecord.uncounted = s.toRecord.uncounted := by
  simp only [Region.outline, Region.Outline.mk.injEq] at h
  simp only [Region.toRecord, RegionRecord.uncounted, h]

theorem uncounted_report (h : Twins c d) : c.report.uncounted = d.report.uncounted := by
  have outline := h.outline
  simp only [ThreadProfile.outline, ThreadProfile.Outline.mk.injEq] at outline
  obtain ⟨-, declaration, -, regions, -, -⟩ := outline
  have records : c.report.regions.map (·.uncounted) = d.report.regions.map (·.uncounted) := by
    rw [h.wellFormed.1.report_regions, h.wellFormed.2.report_regions, List.map_map, List.map_map]
    exact map_eq_of_map_eq (fun _ _ _ _ same => uncounted_toRecord same) regions
  simp only [Report.uncounted, records]
  simp only [ThreadProfile.report, ThreadProfile.task, declaration, h.task]

variable {before after : Option ThreadProfile}

/-- Two threads have twins, or both have nothing. What shows of them is the same. -/
theorem shown_eq (h : Option.Rel Twins before after) :
    before.map (fun c => (c.declaredTask, c.outline)) =
      after.map fun c => (c.declaredTask, c.outline) := by
  cases h with
  | none => rfl
  | some twins => rw [Option.map_some, Option.map_some, twins.task, twins.outline]

theorem eq_of_unsampled (h : Option.Rel Twins before after) (has : before = some c)
    (reads : c.readsCounters = false) : after = some c := by
  cases h with
  | none => cases has
  | some twins =>
    cases has
    rw [twins.eq reads]

end Twins

namespace Turn

/-- Whether a turn was not stopped by a fault of the file system. -/
def saved (x : Turn) : Bool :=
  match x.reply.result with
  | .error (.reportIo ..) => false
  | _ => true

/-- The profile that a turn ends. -/
def ended? (x : Turn) : Option ThreadProfile :=
  if x.request.operation = .finish then x.before.roster.profile? x.thread else none

/-- Two turns have ended the profiles `c` and `d` and written their reports to copies of one name. The
reports are the same but for the values of the counters, and the files hold them in the end. -/
structure WrittenAlike (A B : FileTree) (x y : Turn) (c d : ThreadProfile) : Prop where
  uncounted : c.report.uncounted = d.report.uncounted
  unsampled : c.readsCounters = false → c.report = d.report
  written : ∃ m n, let path := x.before.archive.pathOf c.report
    x.reply.result = .ok (.written (path m)) ∧ y.reply.result = .ok (.written (path n)) ∧
      A.read (path m) = .ok c.report.text.toUTF8 ∧ B.read (path n) = .ok d.report.text.toUTF8

/-- Two turns of one request are answered alike, end profiles alike and leave profiles alike. -/
structure Matches (A B : FileTree) (x y : Turn) : Prop where
  thread : x.thread = y.thread
  request : x.request = y.request
  answers : x.ended? = none → x.reply.result = y.reply.result
  reports : Option.Rel (WrittenAlike A B x y) x.ended? y.ended?
  profiles : x.profile?.map (fun c => (c.declaredTask, c.outline)) =
    y.profile?.map fun c => (c.declaredTask, c.outline)
  unsampled : ∀ c, x.profile? = some c → c.readsCounters = false → y.profile? = some c

end Turn

namespace Profiler

variable {p q : Profiler} {t u : ThreadId} {r : Request}

theorem grows_serveAll (p : Profiler) (w : List (ThreadId × Request)) :
    p.archive.Grows (p.serveAll w).archive := by
  induction w generalizing p with
  | nil => exact .refl _
  | cons x w ih => exact (p.terms_serve x.1 x.2).2.trans (ih _)

/-- As thread `t` sees them the two profilers are one, up to the values of the counters and the copies
of reports. -/
structure Indistinct (t : ThreadId) (p q : Profiler) : Prop where
  terms : p.terms = q.terms
  programmable : ∀ n, p.terms.source.failure? n = none
  directory : p.archive.directory = q.archive.directory
  profiles : Option.Rel Twins (p.roster.profile? t) (q.roster.profile? t)

namespace Indistinct

theorem outlines (h : Indistinct t p q) :
    (p.roster.profile? t).map (·.outline) = (q.roster.profile? t).map (·.outline) := by
  have profiles := h.profiles
  generalize p.roster.profile? t = left at profiles ⊢
  generalize q.roster.profile? t = right at profiles ⊢
  cases profiles with
  | none => rfl
  | some twins => exact congrArg some twins.outline

theorem exists_twin (h : Indistinct t p q) {c : ThreadProfile} (has : p.roster.profile? t = some c) :
    ∃ d, q.roster.profile? t = some d ∧ Twins c d := by
  have profiles := h.profiles
  rw [has] at profiles
  generalize q.roster.profile? t = right at profiles ⊢
  cases profiles with
  | some twins => exact ⟨_, rfl, twins⟩

theorem none_of_none (h : Indistinct t p q) (has : p.roster.profile? t = none) :
    q.roster.profile? t = none := by
  have profiles := h.profiles
  rw [has] at profiles
  generalize q.roster.profile? t = right at profiles ⊢
  cases profiles
  rfl

theorem addUser_ok {s : Counters.Service} (programmable : ∀ n, s.source.failure? n = none) :
    s.addUser.2.1 = .ok () := by
  simp only [Counters.Service.addUser, programmable]
  split <;> rfl

theorem users (h : Indistinct t p q) :
    p.roster.service.addUser.2.1 = q.roster.service.addUser.2.1 :=
  (addUser_ok h.programmable).trans
    (addUser_ok (s := q.roster.service) (h.terms ▸ h.programmable :)).symm

/-- A turn that the file system lets end has written what it was to write. -/
theorem exists_written {x : Turn} {a : Archive} {report : Report} (saved : x.saved = true)
    (result : x.reply.result = (a.write report).2.1.map .written) :
    ∃ n, x.reply.result = .ok (.written (a.pathOf report n)) ∧
      (a.write report).1.disk.read (a.pathOf report n) = .ok report.text.toUTF8 := by
  cases written : (a.write report).2.1 with
  | error e =>
    obtain ⟨path, fault, rfl⟩ := Archive.write_error written
    rw [Turn.saved, result, written] at saved
    cases saved
  | ok path =>
    obtain ⟨⟨n, rfl⟩, read⟩ := Archive.read_of_write written
    exact ⟨n, by rw [result, written]; rfl, read⟩

/-- What other threads do does not show. -/
theorem other (h : Indistinct t p q) (differs : u ≠ t) (r : Request) :
    Indistinct t (p.serve u r).profiler q where
  terms := (p.terms_serve u r).1.trans h.terms
  programmable := (p.terms_serve u r).1 ▸ h.programmable
  directory := (p.terms_serve u r).2.directory.trans h.directory
  profiles := by
    rw [p.profile?_serve_of_ne (Ne.symm differs)]
    exact h.profiles

theorem own (h : Indistinct t p q) (r : Request) :
    Indistinct t (p.serve t r).profiler (q.serve t r).profiler where
  terms := ((p.terms_serve t r).1.trans h.terms).trans (q.terms_serve t r).1.symm
  programmable := (p.terms_serve t r).1 ▸ h.programmable
  directory :=
    ((p.terms_serve t r).2.directory.trans h.directory).trans (q.terms_serve t r).2.directory.symm
  profiles := by
    have before := h.profiles
    have after := (serve_alike h.terms h.outlines h.users r).2.2
    generalize (p.serve t r).profiler.roster.profile? t = left at after ⊢
    generalize (q.serve t r).profiler.roster.profile? t = right at after ⊢
    cases after with
    | none => exact .none
    | some related =>
      obtain ⟨c, d, as, bs, -, ⟨hasP, hasQ⟩ | ⟨declared, rfl, rfl⟩, alike, rfl, rfl⟩ := related
      · rw [hasP, hasQ] at before
        cases before with
        | some twins => exact .some (twins.run alike)
      · exact .some ((Twins.create t declared).run alike)

/-- A turn that ends no profile is answered alike. -/
theorem answers (h : Indistinct t p q) (r : Request) (goes : (p.turn t r).ended? = none) :
    (p.serve t r).result = (q.serve t r).result := by
  by_cases finish : r.operation = .finish
  · have hasP : p.roster.profile? t = none := (if_pos finish).symm.trans goes
    have begins (terms : Terms) : r.declaration? terms = none := by
      rw [Request.declaration?, Request.read_finish finish]
      rfl
    exact (serve_of_none hasP (begins _)).result.trans
      (serve_of_none (h.none_of_none hasP) (begins _)).result.symm
  · exact (serve_alike h.terms h.outlines h.users r).1 finish

/-- A turn that ends a profile writes the same report, unless the file system has a fault. -/
theorem reports (h : Indistinct t p q) (r : Request) {A B : FileTree}
    (keepsA : (p.serve t r).profiler.archive.disk.Keeps A)
    (keepsB : (q.serve t r).profiler.archive.disk.Keeps B)
    (savedP : (p.turn t r).saved = true) (savedQ : (q.turn t r).saved = true) :
    Option.Rel (Turn.WrittenAlike A B (p.turn t r) (q.turn t r)) (p.turn t r).ended?
      (q.turn t r).ended? := by
  by_cases finish : r.operation = .finish
  · have endedP : (p.turn t r).ended? = p.roster.profile? t := if_pos finish
    have endedQ : (q.turn t r).ended? = q.roster.profile? t := if_pos finish
    rw [endedP, endedQ]
    cases hasP : p.roster.profile? t with
    | none =>
      rw [h.none_of_none hasP]
      exact .none
    | some c =>
      obtain ⟨d, hasQ, twins⟩ := h.exists_twin hasP
      obtain ⟨effectP, archiveP⟩ := serve_of_finish hasP finish
      obtain ⟨effectQ, archiveQ⟩ := serve_of_finish hasQ finish
      obtain ⟨m, resultP, readP⟩ := exists_written savedP effectP.result
      obtain ⟨n, resultQ, readQ⟩ := exists_written savedQ effectQ.result
      have named : q.archive.pathOf d.report n = p.archive.pathOf c.report n := by
        rw [Archive.pathOf, Archive.pathOf, h.directory,
          (Report.namesake_of_uncounted twins.uncounted_report).copyName_eq]
      rw [← archiveP] at readP
      rw [← archiveQ, named] at readQ
      rw [named] at resultQ
      rw [hasQ]
      exact .some ⟨twins.uncounted_report, fun reads => congrArg ThreadProfile.report (twins.eq reads),
        m, n, resultP, resultQ, keepsA _ _ readP, keepsB _ _ readQ⟩
  · have goesP : (p.turn t r).ended? = none := if_neg finish
    have goesQ : (q.turn t r).ended? = none := if_neg finish
    rw [goesP, goesQ]
    exact .none

/-- The turn of a request in the one profiler and in the other, as it stands in the end. -/
theorem turn (h : Indistinct t p q) (r : Request) {A B : FileTree}
    (keepsA : (p.serve t r).profiler.archive.disk.Keeps A)
    (keepsB : (q.serve t r).profiler.archive.disk.Keeps B)
    (savedP : (p.turn t r).saved = true) (savedQ : (q.turn t r).saved = true) :
    Turn.Matches A B (p.turn t r) (q.turn t r) where
  thread := rfl
  request := rfl
  answers := h.answers r
  reports := h.reports r keepsA keepsB savedP savedQ
  profiles := Twins.shown_eq (h.own r).profiles
  unsampled _ has reads := Twins.eq_of_unsampled (h.own r).profiles has reads

end Indistinct

/-- Whatever other threads do, a thread is served as if it were alone. -/
theorem history_alone (h : Indistinct t p q) (w : List (ThreadId × Request))
    (savedP : ∀ x ∈ p.history w, x.saved = true)
    (savedQ : ∀ x ∈ q.history (w.filter (·.1 = t)), x.saved = true) :
    List.Forall₂ (Turn.Matches (p.serveAll w).archive.disk (q.serveAll (w.filter (·.1 = t))).archive.disk)
      ((p.history w).filter (·.thread = t)) (q.history (w.filter (·.1 = t))) := by
  -- A request of the thread moves both profilers on, one of another thread only the first.
  induction w generalizing p q with
  | nil => exact .nil
  | cons x w ih =>
    obtain ⟨u, r⟩ := x
    by_cases own : u = t
    · subst own
      have solo : ((u, r) :: w).filter (·.1 = u) = (u, r) :: w.filter (·.1 = u) := by simp
      have joint : (p.history ((u, r) :: w)).filter (·.thread = u) =
          p.turn u r :: ((p.serve u r).profiler.history w).filter (·.thread = u) := by
        simp [history]
      rw [solo] at savedQ ⊢
      rw [joint]
      refine .cons ?_ (ih (h.own r) (fun x member => savedP x (.tail _ member))
        fun x member => savedQ x (.tail _ member))
      exact h.turn r (grows_serveAll _ w).files (grows_serveAll _ _).files (savedP _ (.head _))
        (savedQ _ (.head _))
    · have solo : ((u, r) :: w).filter (·.1 = t) = w.filter (·.1 = t) := by simp [own]
      have joint : (p.history ((u, r) :: w)).filter (·.thread = t) =
          ((p.serve u r).profiler.history w).filter (·.thread = t) := by
        simp [history, own]
      rw [solo] at savedQ ⊢
      rw [joint]
      exact ih (h.other own r) (fun x member => savedP x (.tail _ member)) savedQ

/-- Among the turns of all threads each thread has the turns it would have alone: the same answers, the
same profiles after them and the same reports. Only the values of the counters and the copy numbers of
reports differ, as long as the counters can be programmed and the file system has no fault. -/
theorem thread_served_as_if_alone (s : Settings) (source : Counters.Source) (begun : Moment)
    (disk : FileTree) (programmable : ∀ n, source.failure? n = none) (t : ThreadId)
    (w : List (ThreadId × Request)) :
    let p := create s source begun disk
    let alone := w.filter (·.1 = t)
    (∀ x ∈ p.history w, x.saved = true) → (∀ x ∈ p.history alone, x.saved = true) →
      List.Forall₂
        (Turn.Matches (p.serveAll w).archive.disk (p.serveAll alone).archive.disk)
        ((p.history w).filter (·.thread = t)) (p.history alone) := by
  intro p alone savedJoint savedAlone
  have same : Indistinct t p p := ⟨rfl, programmable, rfl, .none⟩
  exact history_alone same w savedJoint savedAlone

/-- Two threads run one program at a time, and the other one is the first to write its report. -/
theorem loop_served_as_if_alone :
    let t : ThreadId := ⟨1⟩
    let u : ThreadId := ⟨2⟩
    let start : Request := .direct (.start "kernel.ispc" 4 3 9 0 0xff)
    let see : Request := .direct (.iteration "body" 5 0x0f 4)
    let stop : Request := .direct (.stop 4 9)
    let finish : Request := .direct .finish
    let w := [(t, start), (u, start), (u, see), (t, see), (u, stop), (u, finish), (u, start), (t, stop),
      (t, finish)]
    let p := create .default .disabled ⟨2024, 1, 2, 3, 4, 5⟩ .empty
    let alone := w.filter (·.1 = t)
    (∀ n, Counters.Source.disabled.failure? n = none) ∧ (∀ x ∈ p.history w, x.saved = true) ∧
      (∀ x ∈ p.history alone, x.saved = true) ∧ alone = [(t, start), (t, see), (t, stop), (t, finish)] ∧
      List.Forall₂
        (Turn.Matches (p.serveAll w).archive.disk (p.serveAll alone).archive.disk)
        ((p.history w).filter (·.thread = t)) (p.history alone) := by
  intro t u start see stop finish w p alone
  have programmable : ∀ n, Counters.Source.disabled.failure? n = none := fun _ => rfl
  have savedJoint : ∀ x ∈ p.history w, x.saved = true := List.all_eq_true.mp (by decide)
  have savedAlone : ∀ x ∈ p.history alone, x.saved = true := List.all_eq_true.mp (by decide)
  refine ⟨programmable, savedJoint, savedAlone, rfl, ?_⟩
  have served := thread_served_as_if_alone .default .disabled ⟨2024, 1, 2, 3, 4, 5⟩ .empty programmable
    t w
  simp only [p, alone] at savedJoint savedAlone ⊢
  exact served savedJoint savedAlone

end Profiler

end SimdProfile

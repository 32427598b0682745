import SimdProfile.Host.Call
import SimdProfile.Proofs.Profile.WellFormed
import SimdProfile.Proofs.Profiler

/-!
# Requests

What reaches the profiler from outside: calls, and calls of compiled code whose text is still to be
read. A request starts a region, stops one, ends a profile, or is quiet. A start whose origin is no text
or whose kind is unknown is refused.

The profiler after some requests, and their transcript, are followed one request at a time. For every
kind of request there is one lemma on what it does to the profile of its thread and what it answers.
-/

namespace SimdProfile

/-- A request: a call, or one of compiled code. -/
inductive Request where
  | direct (call : Call)
  | hosted (call : Host.RawCall)

namespace Request

/-- The operation of a request. -/
def operation : Request → Operation
  | direct call => call.operation
  | hosted call => call.operation

/-- The call a request stands for. -/
def read : Request → Except Error Call
  | direct call => .ok call
  | hosted call => call.read

/-- Whether a request starts a region, but one without an origin or a known kind. -/
def isRefused (r : Request) : Bool :=
  match r.read with
  | .ok (.start _ kind _ _ _ _) => (RegionKind.ofCode? kind).isNone
  | .ok _ => false
  | .error _ => r.operation == .start

/-- Whether a request neither starts nor stops a region, nor ends the profile. -/
def isQuiet (r : Request) : Bool :=
  match r.operation with
  | .declare | .iteration | .branch => true
  | .start | .stop | .finish => false

variable {r : Request}

private theorem exists_of_map_eq_ok {ε α β : Type} {x : Except ε α} {f : α → β} {b : β}
    (h : x.map f = .ok b) : ∃ a, f a = b := by
  cases x with
  | error e => cases h
  | ok a => exact ⟨a, Except.ok.inj h⟩

theorem operation_of_read {call : Call} (h : r.read = .ok call) : call.operation = r.operation := by
  cases r with
  | direct c =>
    cases h
    rfl
  | hosted raw =>
    cases raw with
    | declare origin line width flags =>
      obtain ⟨s, rfl⟩ := exists_of_map_eq_ok h
      rfl
    | start origin kind startLine endLine task mask =>
      obtain ⟨s, rfl⟩ := exists_of_map_eq_ok h
      rfl
    | stop kind line =>
      cases h
      rfl
    | iteration note line mask kind =>
      cases h
      rfl
    | branch note line mask kind =>
      cases h
      rfl
    | finish =>
      cases h
      rfl

/-- Only starts are refused. -/
theorem operation_of_refused (h : r.isRefused = true) : r.operation = .start := by
  unfold isRefused at h
  split at h
  · next hr => exact (operation_of_read hr).symm
  · cases h
  · exact beq_iff_eq.mp h

theorem isRefused_of_ne (h : r.operation ≠ .start) : r.isRefused = false := by
  cases refused : r.isRefused with
  | true => exact absurd (operation_of_refused refused) h
  | false => rfl

theorem operation_of_quiet (h : r.isQuiet = true) :
    r.operation ≠ .start ∧ r.operation ≠ .stop ∧ r.operation ≠ .finish := by
  unfold isQuiet at h
  cases named : r.operation <;> simp [named] at h ⊢

/-- Every request is of one of five kinds. -/
theorem kind_cases (r : Request) :
    r.isRefused = true ∨ (r.operation = .start ∧ r.isRefused = false) ∨ r.operation = .stop ∨
      r.operation = .finish ∨ r.isQuiet = true := by
  unfold isQuiet
  cases r.operation <;> simp

/-- A start that is not refused carries an origin and a known kind. -/
theorem read_start (h : r.operation = .start) (accepted : r.isRefused = false) :
    ∃ origin kindCode startLine endLine task mask kind,
      r.read = .ok (.start origin kindCode startLine endLine task mask) ∧
        RegionKind.ofCode? kindCode = some kind := by
  cases hr : r.read with
  | error e => simp [isRefused, hr, h] at accepted
  | ok call =>
    have named := operation_of_read hr
    rw [h] at named
    cases call with
    | start origin kindCode startLine endLine task mask =>
      simp only [isRefused, hr, Option.isNone_eq_false_iff, Option.isSome_iff_exists] at accepted
      obtain ⟨kind, known⟩ := accepted
      exact ⟨origin, kindCode, startLine, endLine, task, mask, kind, rfl, known⟩
    | _ => cases named

/-- Only origins can be unreadable. -/
theorem exists_read (start : r.operation ≠ .start) (declare : r.operation ≠ .declare) :
    ∃ call, r.read = .ok call := by
  cases r with
  | direct call => exact ⟨call, rfl⟩
  | hosted call =>
    cases call with
    | declare => exact absurd rfl declare
    | start => exact absurd rfl start
    | stop kind line => exact ⟨_, rfl⟩
    | iteration note line mask kind => exact ⟨_, rfl⟩
    | branch note line mask kind => exact ⟨_, rfl⟩
    | finish => exact ⟨_, rfl⟩

theorem read_stop (h : r.operation = .stop) : ∃ kind line, r.read = .ok (.stop kind line) := by
  obtain ⟨call, hr⟩ := exists_read (r := r) (by simp [h]) (by simp [h])
  have named := (operation_of_read hr).trans h
  cases call with
  | stop kind line => exact ⟨kind, line, hr⟩
  | _ => cases named

theorem read_finish (h : r.operation = .finish) : r.read = .ok .finish := by
  obtain ⟨call, hr⟩ := exists_read (r := r) (by simp [h]) (by simp [h])
  have named := (operation_of_read hr).trans h
  cases call with
  | finish => exact hr
  | _ => cases named

end Request

namespace Profiler

/-- Serves a request of a thread. -/
def serve (p : Profiler) (t : ThreadId) (r : Request) : Reply Answer :=
  match r.read with
  | .ok call => p.perform t call
  | .error e => p.refuse e

/-- The profiler after requests of any threads. -/
def serveAll (p : Profiler) (w : List (ThreadId × Request)) : Profiler :=
  w.foldl (fun p x => (p.serve x.1 x.2).profiler) p

theorem serveAll_cons (p : Profiler) (t : ThreadId) (r : Request) (w : List (ThreadId × Request)) :
    p.serveAll ((t, r) :: w) = (p.serve t r).profiler.serveAll w :=
  rfl

theorem serveAll_append (p : Profiler) (v w : List (ThreadId × Request)) :
    p.serveAll (v ++ w) = (p.serveAll v).serveAll w :=
  List.foldl_append

/-! ### One request -/

variable (p : Profiler) {t u : ThreadId} {r : Request} {c : ThreadProfile}

/-- A request reaches the profile of its own thread and no other. -/
theorem profile?_serve_of_ne (other : u ≠ t) (r : Request) :
    (p.serve t r).profiler.roster.profile? u = p.roster.profile? u := by
  unfold serve
  split
  · exact p.profile?_perform_of_ne other _
  · rfl

/-- A start that is refused changes nothing. -/
theorem serve_of_refused (h : r.isRefused = true) (t : ThreadId) : ∃ e, p.serve t r = p.refuse e := by
  unfold serve
  split
  · next call hr =>
    cases call with
    | start origin kindCode startLine endLine task mask =>
      simp only [Request.isRefused, hr, Option.isNone_iff_eq_none] at h
      exact ⟨.unknownRegionKind kindCode, by rw [perform, p.start_of_unknown h]; rfl⟩
    | _ => simp [Request.isRefused, hr] at h
  · next e _ => exact ⟨e, rfl⟩

/-- A start that is not refused finds no profile and leaves none, or is an entry. -/
theorem serve_of_accepted (h : r.operation = .start) (accepted : r.isRefused = false) :
    (p.roster.profile? t = none ∧ (p.serve t r).profiler.roster.profile? t = none) ∨
      ∃ c after id, p.roster.Enlists t c ∧ c.Entered after id ∧
        (p.serve t r).result = .ok (.region id) ∧
        (p.serve t r).profiler.roster.profile? t = some after := by
  obtain ⟨origin, kindCode, startLine, endLine, task, mask, kind, hr, known⟩ :=
    Request.read_start h accepted
  simp only [serve, hr, perform, Reply.map]
  rcases p.start_cases (t := t) known startLine endLine task mask with
    ⟨has, same⟩ | ⟨c, after, id, enlists, entered, result, profiles⟩
  · exact .inl ⟨has, (same t).trans has⟩
  · refine .inr ⟨c, after, id, enlists, entered, ?_, (profiles t).trans (if_pos rfl)⟩
    rw [result]
    rfl

private theorem rested_of_observed {after : Roster} (line : Int32) (mask : UInt64)
    (observed : ∃ c, p.roster.profile? t = some c ∧
      ∀ u, after.profile? u =
        if u = t then some (c.act (.observe line mask)) else p.roster.profile? u) :
    ∃ c after', p.roster.Enlists t c ∧ c.Rested after' ∧ after.profile? t = some after' := by
  obtain ⟨c, has, profiles⟩ := observed
  have rested : c.Rested (c.act (.observe line mask)) :=
    ⟨⟨[.observe line mask], rfl, rfl⟩, c.stack_act_observe line mask⟩
  exact ⟨c, _, .inl has, rested, (profiles t).trans (if_pos rfl)⟩

/-- A quiet request may begin a profile, but enters and leaves nothing. -/
theorem serve_of_quiet (h : r.isQuiet = true) (t : ThreadId) :
    (p.serve t r).profiler.roster.profile? t = p.roster.profile? t ∨
      ∃ c after, p.roster.Enlists t c ∧ c.Rested after ∧
        (p.serve t r).profiler.roster.profile? t = some after := by
  cases hr : r.read with
  | error e =>
    simp only [serve, hr]
    exact .inl rfl
  | ok call =>
    rw [Request.isQuiet, ← Request.operation_of_read hr] at h
    simp only [serve, hr]
    cases call with
    | declare origin line width flags =>
      rcases p.declare_cases (t := t) origin line width flags with same | ⟨c, enlists, profiles⟩
      · exact .inl (same t)
      · exact .inr ⟨c, c, enlists, ⟨⟨[], rfl, rfl⟩, rfl⟩, (profiles t).trans (if_pos rfl)⟩
    | iteration note line mask kind =>
      exact (p.observe_cases .iteration note line mask kind).imp (· t) (p.rested_of_observed line mask)
    | branch note line mask kind =>
      exact (p.observe_cases .branch note line mask kind).imp (· t) (p.rested_of_observed line mask)
    | start | stop | finish => cases h

theorem serve_of_stop_of_none (h : r.operation = .stop) (has : p.roster.profile? t = none) :
    p.serve t r = p.refuse (.missingProfile Operation.stop.name) := by
  obtain ⟨kind, line, hr⟩ := Request.read_stop h
  simp only [serve, hr, perform, p.stop_of_none has]
  rfl

theorem serve_of_stop_of_empty (h : r.operation = .stop) (has : p.roster.profile? t = some c)
    (empty : c.stack = []) :
    (∃ line, (p.serve t r).result = .error (.unbalancedEnd line)) ∧
      (p.serve t r).profiler.roster.profile? t = some c := by
  obtain ⟨kind, line, hr⟩ := Request.read_stop h
  obtain ⟨result, same⟩ := p.stop_of_empty has empty kind line
  simp only [serve, hr, perform, Reply.map]
  refine ⟨⟨line, ?_⟩, (same t).trans has⟩
  rw [result]
  rfl

/-- A stop answers the region of the innermost frame and leaves that frame. -/
theorem serve_of_stop_of_cons {frame : Frame} {rest : List Frame} (h : r.operation = .stop)
    (has : p.roster.profile? t = some c) (opened : c.stack = frame :: rest) :
    (p.serve t r).result = .ok (.region (c.frameId? frame)) ∧
      ∃ measure exit line, (p.serve t r).profiler.roster.profile? t =
        some (c.act (.leave measure exit line)) := by
  obtain ⟨kind, line, hr⟩ := Request.read_stop h
  obtain ⟨result, profiles⟩ := p.stop_of_cons has opened kind line
  simp only [serve, hr, perform, Reply.map]
  refine ⟨?_, _, _, line, (profiles t).trans (if_pos rfl)⟩
  rw [result]
  rfl

theorem profile?_serve_of_finish (h : r.operation = .finish) (t : ThreadId) :
    (p.serve t r).profiler.roster.profile? t = none := by
  rw [serve, Request.read_finish h]
  exact (p.profile?_finish t t).trans (if_pos rfl)

/-- A request leaves the thread what it had, or nothing, or what calls make of the profile it is
enlisted with. -/
theorem profile?_serve_cases (t : ThreadId) (r : Request) :
    let after := (p.serve t r).profiler.roster.profile? t
    after = p.roster.profile? t ∨ after = none ∨
      ∃ c as, p.roster.Enlists t c ∧ after = some (c.run as) := by
  dsimp only
  rcases r.kind_cases with refused | ⟨start, accepted⟩ | stop | finish | quiet
  · obtain ⟨e, same⟩ := p.serve_of_refused refused t
    rw [same]
    exact .inl rfl
  · rcases p.serve_of_accepted start accepted with
      ⟨-, gone⟩ | ⟨c, after, id, enlists, entered, -, here⟩
    · exact .inr (.inl gone)
    · obtain ⟨as, -, rfl⟩ := entered.run
      exact .inr (.inr ⟨c, as, enlists, here⟩)
  · cases before : p.roster.profile? t with
    | none =>
      rw [p.serve_of_stop_of_none stop before]
      exact .inl before
    | some c =>
      cases hs : c.stack with
      | nil => exact .inl (p.serve_of_stop_of_empty stop before hs).2
      | cons frame rest =>
        obtain ⟨-, measure, exit, line, here⟩ := p.serve_of_stop_of_cons stop before hs
        exact .inr (.inr ⟨c, [.leave measure exit line], .inl before, here⟩)
  · exact .inr (.inl (p.profile?_serve_of_finish finish t))
  · rcases p.serve_of_quiet quiet t with same | ⟨c, after, enlists, rested, here⟩
    · exact .inl same
    · obtain ⟨as, -, rfl⟩ := rested.run
      exact .inr (.inr ⟨c, as, enlists, here⟩)

/-! ### Any row of requests -/

/-- All profiles are well formed. -/
def WellFormed (p : Profiler) : Prop :=
  ∀ t c, p.roster.profile? t = some c → c.WellFormed

theorem wellFormed_create (s : Settings) (source : Counters.Source) (begun : Moment)
    (disk : FileTree) : (create s source begun disk).WellFormed := by
  intro t c has
  cases has

variable {p}

theorem WellFormed.of_enlists (h : p.WellFormed) (enlists : p.roster.Enlists t c) :
    c.WellFormed := by
  rcases enlists with has | ⟨-, d, rfl⟩
  · exact h t c has
  · exact ThreadProfile.wellFormed_create t d

theorem WellFormed.serve (h : p.WellFormed) (t : ThreadId) (r : Request) :
    (p.serve t r).profiler.WellFormed := by
  intro u c has
  by_cases own : u = t
  · subst own
    rcases p.profile?_serve_cases u r with same | gone | ⟨c', as, enlists, here⟩
    · exact h u c (same.symm.trans has)
    · cases gone.symm.trans has
    · cases here.symm.trans has
      exact (h.of_enlists enlists).run as
  · rw [p.profile?_serve_of_ne own] at has
    exact h u c has

theorem WellFormed.serveAll (h : p.WellFormed) (w : List (ThreadId × Request)) :
    (p.serveAll w).WellFormed := by
  induction w generalizing p with
  | nil => exact h
  | cons x w ih => exact ih (h.serve x.1 x.2)

end Profiler

/-- A call of compiled code is the request it stands for, with its result reported. -/
theorem Host.call_eq_serve (p : Profiler) (t : ThreadId) (c : RawCall) :
    call p t c =
      let reply := p.serve t (.hosted c)
      ⟨reply.profiler, reply.events ++ closingEvents c.operation reply.result,
        isFatal reply.result⟩ :=
  rfl

end SimdProfile

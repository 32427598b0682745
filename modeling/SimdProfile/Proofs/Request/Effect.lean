import SimdProfile.Proofs.Archive
import SimdProfile.Proofs.Request

/-!
# The effect of a request

What a request does, in full, told from the thread that makes it. Two things decide it: the profile the
thread has, and the terms of the profiler, which no request changes. On a profile the request makes some
calls, `Request.actions`, takes at most one snapshot, and is answered from the profile alone. Without a
profile it begins one first, `Request.declaration?`, or does nothing at all. To end a profile is the only
request that looks beyond it.
-/

namespace SimdProfile

/-- What a profiler is built with and keeps. -/
structure Terms where
  isLibrary : String → Bool
  laneWidth : UInt32
  flags : Flags
  source : Counters.Source

/-- The metrics of a pair of snapshots. -/
def Terms.measure (terms : Terms) : Snapshot → Snapshot → Sample Float := terms.source.measure

/-- The service after a snapshot was taken, or none. -/
def Counters.Service.draw (s : Service) (drawn : Bool) : Service :=
  { s with taken := s.taken + drawn.toNat }

/-- The id of the innermost entry, none if it is suppressed. -/
def ThreadProfile.innermostId? (c : ThreadProfile) : Option RegionId := c.stack.head?.bind c.frameId?

/-- An entry answers the region that it makes the innermost. -/
theorem ThreadProfile.enter_innermostId? (c : ThreadProfile) (kind : RegionKind)
    (startLine endLine : Int32) (mask : UInt64) (snapshot : Option Snapshot) :
    (c.enter kind startLine endLine mask snapshot).2 =
      (c.enter kind startLine endLine mask snapshot).1.innermostId? := by
  obtain ⟨frame, stack, answered⟩ := c.enter_answer kind startLine endLine mask snapshot
  rw [answered, innermostId?, stack]
  rfl

/-- An observation is refused if nothing is open, and else answers the innermost region. -/
theorem ThreadProfile.observe_eq (c : ThreadProfile) (line : Int32) (mask : UInt64) :
    c.observe line mask =
      match c.stack with
      | [] => .error (.noActiveRegion line)
      | frame :: _ => .ok (c.act (.observe line mask), c.frameId? frame) := by
  cases hs : c.stack with
  | nil => simp only [observe, hs]
  | cons frame rest =>
    cases frame with
    | suppressed kind =>
      simp only [act, observe, hs]
      rfl
    | recorded slot base =>
      have kept := c.idAt?_amendRegion slot slot
        (f := (·.observe line mask c.declaration.laneWidth.toNat)) fun _ => rfl
      simp only [act, observe, hs]
      exact congrArg (fun id => Except.ok (_, id)) (kept.trans (c.frameId?_recorded slot base).symm)

/-- Whether a call was answered with a region. -/
def answersRegion : Except Error Answer → Bool
  | .ok (.region (some _)) => true
  | _ => false

namespace Call

/-- Whether a call takes a snapshot: one that starts a recorded region or stops any, if the profile
reads the counters. -/
def draws (terms : Terms) (c : ThreadProfile) : Call → Bool
  | start origin kindCode _ _ _ _ =>
    match RegionKind.ofCode? kindCode with
    | none => false
    | some kind => !terms.isLibrary origin && (c.readsCounters && c.records kind)
  | stop _ _ => c.readsCounters
  | _ => false

/-- The calls on the profile that an observation stands for. -/
def observing (c : ThreadProfile) (line : Int32) (mask : UInt64) (kindCode : Int32) : List Action :=
  match RegionKind.ofCode? kindCode with
  | none => []
  | some kind => if c.records kind then [.observe line mask] else []

/-- What a call does on the profile of its thread, with the snapshot that comes next. -/
def actions (terms : Terms) (next : Snapshot) (c : ThreadProfile) : Call → List Action
  | start origin kindCode startLine endLine task mask =>
    match RegionKind.ofCode? kindCode with
    | none => []
    | some kind =>
      if terms.isLibrary origin then [.suppress kind]
      else
        [.declareTask task, .enter kind startLine endLine mask
          (if c.readsCounters && c.records kind then some next else none)]
  | stop _ line => [.leave terms.measure (if c.readsCounters then some next else none) line]
  | iteration _ line mask kindCode => observing c line mask kindCode
  | branch _ line mask kindCode => observing c line mask kindCode
  | _ => []

/-- The answer to an observation. -/
def observed (c : ThreadProfile) (line kindCode : Int32) : Except Error Answer :=
  match RegionKind.ofCode? kindCode with
  | none => .error (.unknownRegionKind kindCode)
  | some kind =>
    if !c.records kind then .ok (.region none)
    else if c.stack.isEmpty then .error (.noActiveRegion line)
    else .ok (.region c.innermostId?)

/-- An observation is an action on the profile and answers the innermost region, or it is none and
answers no region. -/
theorem observed_cases (c : ThreadProfile) (line : Int32) (mask : UInt64) (kindCode : Int32) :
    (observing c line mask kindCode = [.observe line mask] ∧
        answersRegion (observed c line kindCode) = c.innermostId?.isSome) ∨
      (observing c line mask kindCode = [] ∧ answersRegion (observed c line kindCode) = false) := by
  unfold observing observed
  cases RegionKind.ofCode? kindCode with
  | none => exact .inr ⟨rfl, rfl⟩
  | some kind =>
    dsimp only
    cases c.records kind with
    | false => exact .inr ⟨rfl, rfl⟩
    | true =>
      refine .inl ⟨rfl, ?_⟩
      cases opened : c.stack with
      | nil => simp [ThreadProfile.innermostId?, opened, answersRegion]
      | cons frame rest => cases c.innermostId? <;> rfl

/-- What a call is answered from the profile of its thread. -/
def answer (terms : Terms) (next : Snapshot) (c : ThreadProfile) : Call → Except Error Answer
  | declare _ _ width _ =>
    if (Profiler.laneWidth? width).isNone then .error (.invalidLaneWidth width) else .ok .done
  | call@(start _ kindCode _ _ _ _) =>
    match RegionKind.ofCode? kindCode with
    | none => .error (.unknownRegionKind kindCode)
    | some _ => .ok (.region (c.run (call.actions terms next c)).innermostId?)
  | stop _ line =>
    if c.stack.isEmpty then .error (.unbalancedEnd line) else .ok (.region c.innermostId?)
  | iteration _ line _ kindCode => observed c line kindCode
  | branch _ line _ kindCode => observed c line kindCode
  | finish => .error (.missingProfile Operation.finish.name)

/-- The profile a call begins if its thread has none. -/
def declaration? (terms : Terms) : Call → Option Declaration
  | declare origin line width flags =>
    if terms.isLibrary origin then none
    else (Profiler.laneWidth? width).map fun width => ⟨origin, line, width, .ofWord flags⟩
  | start origin kindCode startLine _ _ _ =>
    if terms.isLibrary origin || (RegionKind.ofCode? kindCode).isNone then none
    else some ⟨origin, startLine, terms.laneWidth, terms.flags⟩
  | _ => none

/-- A profile is begun by a declaration or by the start of a known kind, for a program that is not the
library. -/
theorem begins_cases {terms : Terms} {call : Call} {d : Declaration}
    (begins : call.declaration? terms = some d) :
    terms.isLibrary d.program = false ∧
      ((∃ origin line width flags lanes, call = .declare origin line width flags ∧
          Profiler.laneWidth? width = some lanes ∧ d = ⟨origin, line, lanes, .ofWord flags⟩) ∨
        ∃ origin kindCode startLine endLine task mask kind,
          call = .start origin kindCode startLine endLine task mask ∧
            RegionKind.ofCode? kindCode = some kind ∧
              d = ⟨origin, startLine, terms.laneWidth, terms.flags⟩) := by
  cases call with
  | declare origin line width flags =>
    simp only [declaration?] at begins
    split at begins
    · cases begins
    · next foreign =>
      obtain ⟨lanes, known, rfl⟩ := Option.map_eq_some_iff.mp begins
      exact ⟨Bool.eq_false_iff.mpr foreign, .inl ⟨_, _, _, _, _, rfl, known, rfl⟩⟩
  | start origin kindCode startLine endLine task mask =>
    simp only [declaration?] at begins
    split at begins
    · cases begins
    · next foreign =>
      cases begins
      simp only [Bool.or_eq_true, not_or, Bool.not_eq_true, Option.isNone_eq_false_iff,
        Option.isSome_iff_exists] at foreign
      obtain ⟨foreign, kind, known⟩ := foreign
      exact ⟨foreign, .inr ⟨_, _, _, _, _, _, kind, rfl, known, rfl⟩⟩
  | _ => cases begins

/-- The answer to an observation of a thread without a profile. -/
def unobserved (operation : Operation) (kindCode : Int32) : Error :=
  if (RegionKind.ofCode? kindCode).isNone then .unknownRegionKind kindCode
  else .missingProfile operation.name

/-- What a call is answered if its thread has no profile and it begins none. -/
def answerWithout : Call → Except Error Answer
  | declare _ _ width _ =>
    if (Profiler.laneWidth? width).isNone then .error (.invalidLaneWidth width) else .ok .done
  | start _ kindCode _ _ _ _ =>
    if (RegionKind.ofCode? kindCode).isNone then .error (.unknownRegionKind kindCode)
    else .ok (.region none)
  | stop _ _ => .error (.missingProfile Operation.stop.name)
  | iteration _ _ _ kindCode => .error (unobserved .iteration kindCode)
  | branch _ _ _ kindCode => .error (unobserved .branch kindCode)
  | finish => .error (.missingProfile Operation.finish.name)

end Call

namespace Request

/-- Whether a request takes a snapshot. -/
def draws (terms : Terms) (c : ThreadProfile) (r : Request) : Bool :=
  match r.read with
  | .ok call => call.draws terms c
  | .error _ => false

/-- What a request does on the profile of its thread. -/
def actions (terms : Terms) (next : Snapshot) (c : ThreadProfile) (r : Request) : List Action :=
  match r.read with
  | .ok call => call.actions terms next c
  | .error _ => []

/-- What a request is answered from the profile of its thread. -/
def answer (terms : Terms) (next : Snapshot) (c : ThreadProfile) (r : Request) : Except Error Answer :=
  match r.read with
  | .ok call => call.answer terms next c
  | .error e => .error e

/-- The profile a request begins if its thread has none. -/
def declaration? (terms : Terms) (r : Request) : Option Declaration :=
  match r.read with
  | .ok call => call.declaration? terms
  | .error _ => none

/-- What a request is answered if its thread has no profile and it begins none. -/
def answerWithout (r : Request) : Except Error Answer :=
  match r.read with
  | .ok call => call.answerWithout
  | .error e => .error e

/-- A request that neither starts nor stops an entry at most observes. -/
theorem actions_of_other {r : Request} (stop : r.operation ≠ .stop)
    (start : r.operation ≠ .start ∨ r.isRefused = true) (terms : Terms) (next : Snapshot)
    (c : ThreadProfile) :
    r.actions terms next c = [] ∨ ∃ line mask, r.actions terms next c = [.observe line mask] := by
  unfold actions
  cases read : r.read with
  | error e => exact .inl rfl
  | ok call =>
    have named := operation_of_read read
    cases call with
    | start origin kindCode startLine endLine task mask =>
      rcases start with start | refused
      · exact absurd named.symm start
      · simp only [isRefused, read, Option.isNone_iff_eq_none] at refused
        simp [Call.actions, refused]
    | stop => exact absurd named.symm stop
    | iteration note line mask kindCode =>
      rcases Call.observed_cases c line mask kindCode with ⟨acts, -⟩ | ⟨acts, -⟩
      · exact .inr ⟨line, mask, acts⟩
      · exact .inl acts
    | branch note line mask kindCode =>
      rcases Call.observed_cases c line mask kindCode with ⟨acts, -⟩ | ⟨acts, -⟩
      · exact .inr ⟨line, mask, acts⟩
      · exact .inl acts
    | declare | finish => exact .inl rfl

/-- A start that is refused is answered with an error. -/
theorem answer_of_refused {r : Request} (h : r.isRefused = true) (terms : Terms) (next : Snapshot)
    (c : ThreadProfile) : ∃ e, r.answer terms next c = .error e := by
  unfold answer
  cases read : r.read with
  | error e => exact ⟨e, rfl⟩
  | ok call =>
    cases call with
    | start origin kindCode startLine endLine task mask =>
      simp only [isRefused, read, Option.isNone_iff_eq_none] at h
      exact ⟨.unknownRegionKind kindCode, by simp only [Call.answer, h]⟩
    | _ => simp [isRefused, read] at h

end Request

namespace Profiler

/-- The terms of a profiler. -/
def terms (p : Profiler) : Terms :=
  ⟨p.roster.isLibrary, p.laneWidth, p.flags, p.roster.service.source⟩

/-- The snapshot that is taken next. -/
def nextSnapshot (p : Profiler) : Snapshot := p.roster.service.source.snapshot p.roster.service.taken

/-- The profiler with an empty profile for a thread. -/
def begun (p : Profiler) (t : ThreadId) (d : Declaration) : Profiler :=
  { p with roster := (p.roster.claim t d).1 }

variable (p : Profiler) {t u : ThreadId} {c : ThreadProfile} {d : Declaration}

theorem snapshotIf_eq (wanted : Bool) :
    p.snapshotIf wanted =
      ({ p with roster := { p.roster with service := p.roster.service.draw wanted } },
        if wanted then some p.nextSnapshot else none) := by
  cases wanted <;> rfl

theorem snapshotIf_snd (wanted : Bool) :
    (p.snapshotIf wanted).2 = if wanted then some p.nextSnapshot else none := by
  rw [snapshotIf_eq]

theorem enter_eq (t : ThreadId) (c : ThreadProfile) (kind : RegionKind)
    (startLine endLine task : Int32) (mask : UInt64) :
    let wanted := c.readsCounters && c.records kind
    let after := c.run [.declareTask task,
      .enter kind startLine endLine mask (if wanted then some p.nextSnapshot else none)]
    p.enter t c kind startLine endLine task mask =
      ((p.snapshotIf wanted).1.putProfile t after, after.innermostId?) := by
  intro wanted after
  have answered := (c.declareTask task).enter_innermostId? kind startLine endLine mask
    (p.snapshotIf wanted).2
  rw [p.snapshotIf_snd] at answered
  have entered : p.enter t c kind startLine endLine task mask =
      ((p.snapshotIf wanted).1.putProfile t
        ((c.declareTask task).enter kind startLine endLine mask (p.snapshotIf wanted).2).1,
        ((c.declareTask task).enter kind startLine endLine mask (p.snapshotIf wanted).2).2) := rfl
  rw [entered, p.snapshotIf_snd, answered]
  rfl

/-! ### On a profile -/

/-- What a request does: it leaves its thread the profile `after`, if any, and the counters to
`service`, and is answered with `result`. -/
structure Effect (p : Profiler) (t : ThreadId) (reply : Reply Answer) (after : Option ThreadProfile)
    (service : Counters.Service) (result : Except Error Answer) : Prop where
  result : reply.result = result
  profile? : ∀ u, reply.profiler.roster.profile? u = if u = t then after else p.roster.profile? u
  service : reply.profiler.roster.service = service
  terms : reply.profiler.terms = p.terms
  archive : p.archive.Grows reply.profiler.archive

variable {p}

/-- The profile that a request leaves its own thread. -/
theorem Effect.own {reply : Reply Answer} {after : Option ThreadProfile} {service : Counters.Service}
    {result : Except Error Answer} (h : p.Effect t reply after service result) :
    reply.profiler.roster.profile? t = after :=
  (h.profile? t).trans (if_pos rfl)

theorem profile?_self (t u : ThreadId) :
    p.roster.profile? u = if u = t then p.roster.profile? t else p.roster.profile? u := by
  split
  · next own => rw [own]
  · rfl

/-- A request that changes no profile. -/
theorem Effect.keep (p : Profiler) (t : ThreadId) (drawn : Bool) (result : Except Error Answer)
    (events : List Log.Event) :
    p.Effect t ⟨(p.snapshotIf drawn).1, result, events⟩ (p.roster.profile? t)
      (p.roster.service.draw drawn) result := by
  rw [snapshotIf_eq]
  exact ⟨rfl, profile?_self t, rfl, rfl, .refl _⟩

/-- A request that puts a profile in place. -/
theorem Effect.put (has : p.roster.profile? t = some c) (drawn : Bool) (after : ThreadProfile)
    (result : Except Error Answer) (events : List Log.Event) :
    p.Effect t ⟨(p.snapshotIf drawn).1.putProfile t after, result, events⟩ (some after)
      (p.roster.service.draw drawn) result := by
  rw [snapshotIf_eq]
  exact ⟨rfl, fun u => profile?_putProfile _ has after u, rfl, rfl, .refl _⟩

/-- A request that changes a profile in place, if there is one. -/
theorem Effect.amend (p : Profiler) (t : ThreadId) (f : ThreadProfile → ThreadProfile)
    (result : Except Error Answer) (events : List Log.Event) :
    p.Effect t ⟨{ p with roster := p.roster.amend t f }, result, events⟩
      ((p.roster.profile? t).map f) (p.roster.service.draw false) result := by
  refine ⟨rfl, fun u => ?_, rfl, rfl, .refl _⟩
  by_cases own : u = t
  · rw [if_pos own, own]
    exact p.roster.profile?_amend_self t f
  · rw [if_neg own]
    exact p.roster.profile?_amend_of_ne own f

/-- A call acts on the profile its thread has and is answered from it. -/
def ActsOn (p : Profiler) (t : ThreadId) (c : ThreadProfile) (call : Call) : Prop :=
  p.Effect t (p.perform t call) (some (c.run (call.actions p.terms p.nextSnapshot c)))
    (p.roster.service.draw (call.draws p.terms c)) (call.answer p.terms p.nextSnapshot c)

theorem actsOn_declare (has : p.roster.profile? t = some c) (origin : String) (line width : Int32)
    (flags : UInt32) : p.ActsOn t c (.declare origin line width flags) := by
  simp only [ActsOn, perform, declare, Call.answer]
  cases laneWidth? width with
  | none => exact has ▸ .keep p t false _ _
  | some lanes =>
    dsimp only
    cases library : p.roster.isLibrary origin with
    | true =>
      rw [p.roster.enlist_of_library (t := t) (d := ⟨origin, line, lanes, .ofWord flags⟩) library]
      exact has ▸ .keep p t false _ _
    | false =>
      obtain ⟨handle, kept⟩ := p.roster.enlist_of_some (t := t)
        (d := ⟨origin, line, lanes, .ofWord flags⟩) library has
      rw [kept]
      exact has ▸ .keep p t false _ _

theorem actsOn_start (has : p.roster.profile? t = some c) (origin : String)
    (kindCode startLine endLine task : Int32) (mask : UInt64) :
    p.ActsOn t c (.start origin kindCode startLine endLine task mask) := by
  cases known : RegionKind.ofCode? kindCode with
  | none =>
    simp only [ActsOn, perform, p.start_of_unknown known, Call.answer, Call.actions, Call.draws, known]
    exact has ▸ .keep p t false _ _
  | some kind =>
    simp only [ActsOn, Call.answer, Call.actions, Call.draws, known]
    cases library : p.roster.isLibrary origin with
    | true =>
      have foreign : p.terms.isLibrary origin = true := library
      have effect := Effect.amend p t (·.suppress kind) (.ok (.region none)) []
      rw [has] at effect
      simp only [perform, p.start_of_library known library, foreign, if_true, Bool.not_true,
        Bool.false_and]
      exact effect
    | false =>
      have own : p.terms.isLibrary origin = false := library
      obtain ⟨handle, kept⟩ := p.roster.enlist_of_some (t := t)
        (d := ⟨origin, startLine, p.laneWidth, p.flags⟩) library has
      have started := p.start_of_enlisted known library (congrArg (·.2.1) kept)
        (by rw [kept, has]) endLine task mask
      rw [kept] at started
      simp only [perform, started, own, Bool.false_eq_true, if_false, Bool.not_false, Bool.true_and]
      rw [enter_eq]
      exact .put has _ _ _ _

theorem actsOn_stop (has : p.roster.profile? t = some c) (kindCode line : Int32) :
    p.ActsOn t c (.stop kindCode line) := by
  simp only [ActsOn, perform, stop, has, Call.answer, Call.actions, Call.draws, c.leave_eq,
    measure_snapshotIf, p.snapshotIf_snd]
  cases opened : c.stack with
  | nil =>
    have same : c.run [.leave p.terms.measure
        (if c.readsCounters then some p.nextSnapshot else none) line] = c := by
      rw [ThreadProfile.run_cons, ThreadProfile.act_leave, opened]
      rfl
    rw [same]
    exact has ▸ .keep p t _ _ _
  | cons frame rest =>
    have innermost : c.innermostId? = c.frameId? frame := by
      rw [ThreadProfile.innermostId?, opened]
      rfl
    rw [innermost]
    exact .put has _ _ _ _

theorem effect_observe (has : p.roster.profile? t = some c) (operation : Operation) (note : String)
    (line : Int32) (mask : UInt64) (kindCode : Int32) :
    p.Effect t ((p.observe operation t note line mask kindCode).map .region)
      (some (c.run (Call.observing c line mask kindCode))) (p.roster.service.draw false)
      (Call.observed c line kindCode) := by
  simp only [observe, has, Call.observing, Call.observed]
  cases RegionKind.ofCode? kindCode with
  | none => exact has ▸ .keep p t false _ _
  | some kind =>
    dsimp only
    cases c.records kind with
    | false => exact has ▸ .keep p t false _ _
    | true =>
      simp only [Bool.not_true, Bool.false_eq_true, if_false, if_true, c.observe_eq]
      cases opened : c.stack with
      | nil =>
        have same : c.run [.observe line mask] = c := by
          rw [ThreadProfile.run_cons, ThreadProfile.act_observe, opened]
          rfl
        rw [same]
        exact has ▸ .keep p t false _ _
      | cons frame rest =>
        have innermost : c.innermostId? = c.frameId? frame := by
          rw [ThreadProfile.innermostId?, opened]
          rfl
        rw [innermost]
        exact .put has false _ _ _

/-- Every call but `finish` acts on the profile its thread has, and is answered from it. -/
theorem actsOn_of_some (has : p.roster.profile? t = some c) {call : Call}
    (goes : call.operation ≠ .finish) : p.ActsOn t c call := by
  cases call with
  | declare origin line width flags => exact actsOn_declare has origin line width flags
  | start origin kindCode startLine endLine task mask =>
    exact actsOn_start has origin kindCode startLine endLine task mask
  | stop kindCode line => exact actsOn_stop has kindCode line
  | iteration note line mask kindCode => exact effect_observe has .iteration note line mask kindCode
  | branch note line mask kindCode => exact effect_observe has .branch note line mask kindCode
  | finish => exact absurd rfl goes

/-- Every request but `finish` acts on the profile its thread has, and is answered from it. -/
theorem serve_of_some (has : p.roster.profile? t = some c) {r : Request}
    (goes : r.operation ≠ .finish) :
    p.Effect t (p.serve t r) (some (c.run (r.actions p.terms p.nextSnapshot c)))
      (p.roster.service.draw (r.draws p.terms c)) (r.answer p.terms p.nextSnapshot c) := by
  cases read : r.read with
  | error e =>
    simp only [serve, Request.actions, Request.draws, Request.answer, read]
    exact has ▸ .keep p t false _ _
  | ok call =>
    rw [← Request.operation_of_read read] at goes
    simp only [serve, Request.actions, Request.draws, Request.answer, read]
    exact actsOn_of_some has goes

/-! ### Without a profile -/

variable {r : Request}

/-- A request that begins no profile leaves a thread without one as it was. -/
theorem serve_of_none (has : p.roster.profile? t = none) (begins : r.declaration? p.terms = none) :
    p.Effect t (p.serve t r) none p.roster.service r.answerWithout := by
  cases read : r.read with
  | error e =>
    simp only [serve, Request.answerWithout, read]
    exact has ▸ .keep p t false _ _
  | ok call =>
    simp only [Request.declaration?, read] at begins
    simp only [serve, Request.answerWithout, read]
    cases call with
    | declare origin line width flags =>
      simp only [perform, declare, Call.answerWithout]
      cases known : laneWidth? width with
      | none => exact has ▸ .keep p t false _ _
      | some lanes =>
        dsimp only
        have library : p.roster.isLibrary origin = true := by
          simpa [Call.declaration?, known, terms] using begins
        rw [p.roster.enlist_of_library (t := t) (d := ⟨origin, line, lanes, .ofWord flags⟩) library]
        exact has ▸ .keep p t false _ _
    | start origin kindCode startLine endLine task mask =>
      simp only [perform, Call.answerWithout]
      cases known : RegionKind.ofCode? kindCode with
      | none =>
        rw [p.start_of_unknown known]
        exact has ▸ .keep p t false _ _
      | some kind =>
        have library : p.roster.isLibrary origin = true := by
          simpa [Call.declaration?, known, terms] using begins
        have effect := Effect.amend p t (·.suppress kind) (.ok (.region none)) []
        rw [has] at effect
        rw [p.start_of_library known library]
        exact effect
    | stop kindCode line =>
      simp only [perform, p.stop_of_none has, Call.answerWithout]
      exact has ▸ .keep p t false _ _
    | iteration note line mask kindCode =>
      simp only [perform, observe, has, Call.answerWithout, Call.unobserved]
      cases RegionKind.ofCode? kindCode <;> exact has ▸ .keep p t false _ _
    | branch note line mask kindCode =>
      simp only [perform, observe, has, Call.answerWithout, Call.unobserved]
      cases RegionKind.ofCode? kindCode <;> exact has ▸ .keep p t false _ _
    | finish =>
      simp only [perform, finish, Roster.dismiss_found, has, Call.answerWithout]
      exact has ▸ .keep p t false _ _

/-! ### Beginning a profile -/

theorem enlist_of_foreign (has : p.roster.profile? t = none)
    (foreign : p.roster.isLibrary d.program = false) :
    p.roster.enlist t d =
      ((p.roster.claim t d).1, some <$> (p.roster.claim t d).2.1, (p.roster.claim t d).2.2) := by
  have unknown : p.roster.handle? t = none :=
    Option.map_eq_none_iff.mpr (Option.map_eq_none_iff.mp has)
  simp only [Roster.enlist, foreign, Bool.false_eq_true, if_false, unknown]

/-- If the counters refuse, no profile is begun. -/
theorem claim_of_refused (has : p.roster.profile? t = none) {e : Error}
    (refused : p.roster.service.addUser.2.1 = .error e) :
    (p.roster.claim t d).1 = { p.roster with service := p.roster.service.addUser.1 } ∧
      (p.roster.claim t d).2.1 = .error e := by
  have unknown : p.roster.handle? t = none :=
    Option.map_eq_none_iff.mpr (Option.map_eq_none_iff.mp has)
  simp only [Roster.claim, unknown, refused, and_self]

theorem claim_of_accepted (has : p.roster.profile? t = none)
    (accepted : p.roster.service.addUser.2.1 = .ok ()) :
    (p.roster.claim t d).1 =
        { p.roster with
          service := p.roster.service.addUser.1
          cells := (t, ⟨p.roster.nextHandle, .create t d⟩) :: p.roster.cells
          nextHandle := p.roster.nextHandle + 1 } ∧
      (p.roster.claim t d).2.1 = .ok p.roster.nextHandle := by
  have unknown : p.roster.handle? t = none :=
    Option.map_eq_none_iff.mpr (Option.map_eq_none_iff.mp has)
  simp only [Roster.claim, unknown, accepted, and_self]

/-- A new user changes neither the source nor the number of snapshots. -/
theorem addUser_source (s : Counters.Service) :
    s.addUser.1.source = s.source ∧ s.addUser.1.taken = s.taken := by
  unfold Counters.Service.addUser
  split
  · split <;> exact ⟨rfl, rfl⟩
  · exact ⟨rfl, rfl⟩

theorem profile?_begun (has : p.roster.profile? t = none)
    (accepted : p.roster.service.addUser.2.1 = .ok ()) (u : ThreadId) :
    (p.begun t d).roster.profile? u = if u = t then some (.create t d) else p.roster.profile? u := by
  have unknown : p.roster.handle? t = none :=
    Option.map_eq_none_iff.mpr (Option.map_eq_none_iff.mp has)
  rcases p.roster.claim_of_none (d := d) unknown with ⟨e, failed, -⟩ | ⟨handle, -, profiles⟩
  · rw [(claim_of_accepted has accepted).2] at failed
    cases failed
  · exact profiles u

theorem terms_begun (has : p.roster.profile? t = none)
    (accepted : p.roster.service.addUser.2.1 = .ok ()) : (p.begun t d).terms = p.terms := by
  simp only [begun, terms, (claim_of_accepted has accepted).1,
    (addUser_source p.roster.service).1]
  rfl

theorem nextSnapshot_begun (has : p.roster.profile? t = none)
    (accepted : p.roster.service.addUser.2.1 = .ok ()) :
    (p.begun t d).nextSnapshot = p.nextSnapshot := by
  simp only [begun, nextSnapshot, (claim_of_accepted has accepted).1,
    (addUser_source p.roster.service).1, (addUser_source p.roster.service).2]

/-- To enlist a thread begins its profile, and to enlist it again finds that. -/
theorem enlist_begun (has : p.roster.profile? t = none)
    (foreign : p.roster.isLibrary d.program = false)
    (accepted : p.roster.service.addUser.2.1 = .ok ()) :
    (∃ handle events, p.roster.enlist t d = ((p.begun t d).roster, .ok (some handle), events)) ∧
      ∃ handle, (p.begun t d).roster.enlist t d = ((p.begun t d).roster, .ok (some handle), []) := by
  constructor
  · refine ⟨p.roster.nextHandle, (p.roster.claim t d).2.2, ?_⟩
    rw [enlist_of_foreign has foreign, (claim_of_accepted has accepted).2]
    rfl
  · have same := congrArg (·.isLibrary d.program) (terms_begun (d := d) has accepted)
    have has' := (profile?_begun (d := d) has accepted t).trans (if_pos rfl)
    exact Roster.enlist_of_some _ (same.trans foreign) has'

/-- A request that begins a profile does on it what it would do had the thread had it before. -/
theorem serve_begun (has : p.roster.profile? t = none) (begins : r.declaration? p.terms = some d)
    (accepted : p.roster.service.addUser.2.1 = .ok ()) :
    (p.serve t r).profiler = ((p.begun t d).serve t r).profiler ∧
      (p.serve t r).result = ((p.begun t d).serve t r).result := by
  have has' := (profile?_begun (d := d) has accepted t).trans (if_pos rfl)
  cases read : r.read with
  | error e => simp [Request.declaration?, read] at begins
  | ok call =>
    simp only [Request.declaration?, read] at begins
    simp only [serve, read]
    obtain ⟨foreign, ⟨origin, line, width, flags, lanes, rfl, known, rfl⟩ |
      ⟨origin, kindCode, startLine, endLine, task, mask, kind, rfl, known, rfl⟩⟩ :=
        Call.begins_cases begins
    all_goals obtain ⟨⟨_, _, given⟩, handle, kept⟩ := enlist_begun has foreign accepted
    · simp only [perform, declare, known, Reply.map]
      rw [given, kept]
      exact ⟨rfl, rfl⟩
    -- Either start enlists the thread and goes on with an empty profile, begun now or found there.
    · let q := p.begun t ⟨origin, startLine, p.laneWidth, p.flags⟩
      have foreign : p.roster.isLibrary origin = false := foreign
      have given : p.roster.enlist t ⟨origin, startLine, p.laneWidth, p.flags⟩ = _ := given
      have foreign' : q.roster.isLibrary origin = false :=
        (congrArg (·.isLibrary origin) (terms_begun has accepted)).trans foreign
      have kept : q.roster.enlist t ⟨origin, startLine, q.laneWidth, q.flags⟩ =
        (q.roster, .ok (some handle), []) := kept
      have first := p.start_of_enlisted known foreign (congrArg (·.2.1) given)
        (by rw [given]; exact has') endLine task mask
      have second := q.start_of_enlisted known foreign' (congrArg (·.2.1) kept)
        (by rw [kept]; exact has') endLine task mask
      rw [given] at first
      rw [kept] at second
      exact ⟨(congrArg (·.profiler) first).trans (congrArg (·.profiler) second).symm,
        congrArg (·.map Answer.region)
          ((congrArg (·.result) first).trans (congrArg (·.result) second).symm)⟩

theorem serve_of_accepts (has : p.roster.profile? t = none)
    (begins : r.declaration? p.terms = some d) (accepted : p.roster.service.addUser.2.1 = .ok ()) :
    let c := ThreadProfile.create t d
    p.Effect t (p.serve t r) (some (c.run (r.actions p.terms p.nextSnapshot c)))
      (p.roster.service.addUser.1.draw (r.draws p.terms c)) (r.answer p.terms p.nextSnapshot c) := by
  intro c
  obtain ⟨profiler, result⟩ := serve_begun has begins accepted
  have has' := (profile?_begun (d := d) has accepted t).trans (if_pos rfl)
  have goes : r.operation ≠ .finish := by
    intro finish
    simp [Request.declaration?, Request.read_finish finish, Call.declaration?] at begins
  have effect := serve_of_some has' goes
  rw [terms_begun has accepted, nextSnapshot_begun has accepted] at effect
  refine ⟨result.trans effect.result, fun u => ?_, ?_, ?_, ?_⟩
  · rw [profiler, effect.profile? u, profile?_begun has accepted]
    split <;> rfl
  · rw [profiler, effect.service, begun, (claim_of_accepted has accepted).1]
  · rw [profiler, effect.terms, terms_begun has accepted]
  · rw [profiler]
    exact effect.archive

/-- A request that would begin a profile fails if the counters refuse. -/
theorem serve_of_refuses (has : p.roster.profile? t = none)
    (begins : r.declaration? p.terms = some d) {e : Error}
    (refused : p.roster.service.addUser.2.1 = .error e) :
    p.Effect t (p.serve t r) none p.roster.service.addUser.1 (.error e) := by
  obtain ⟨claimed, failed⟩ := claim_of_refused (t := t) (d := d) has refused
  have source := (addUser_source p.roster.service).1
  suffices found : (p.serve t r).result = .error e ∧
      (p.serve t r).profiler =
        { p with roster := { p.roster with service := p.roster.service.addUser.1 } } by
    obtain ⟨result, profiler⟩ := found
    refine ⟨result, fun u => ?_, ?_, ?_, ?_⟩
    · rw [profiler, ← has]
      exact profile?_self t u
    · rw [profiler]
    · rw [profiler]
      simp only [terms, source]
      rfl
    · rw [profiler]
      exact .refl _
  cases read : r.read with
  | error e => simp [Request.declaration?, read] at begins
  | ok call =>
    simp only [Request.declaration?, read] at begins
    simp only [serve, read]
    obtain ⟨foreign, ⟨origin, line, width, flags, lanes, rfl, known, rfl⟩ |
      ⟨origin, kindCode, startLine, endLine, task, mask, kind, rfl, known, rfl⟩⟩ :=
        Call.begins_cases begins
    all_goals
      have enlisted := enlist_of_foreign has foreign
      rw [failed] at enlisted
    · simp only [perform, declare, known, Reply.map]
      rw [enlisted, claimed]
      exact ⟨rfl, rfl⟩
    · have foreign : p.roster.isLibrary origin = false := foreign
      have started := p.start_of_failed known foreign (congrArg (·.2.1) enlisted) endLine task mask
      simp only [perform, Reply.map]
      rw [started]
      exact ⟨rfl, congrArg (fun roster => { p with roster := roster })
        ((congrArg (·.1) enlisted).trans claimed)⟩

/-! ### Ending a profile -/

/-- To end a profile removes it and writes its report. -/
theorem serve_of_finish (has : p.roster.profile? t = some c) (finish : r.operation = .finish) :
    p.Effect t (p.serve t r) none p.roster.service.dropUser.1
      ((p.archive.write c.report).2.1.map .written) ∧
      (p.serve t r).profiler.archive = (p.archive.write c.report).1 := by
  obtain ⟨cell, found, profile⟩ := Option.map_eq_some_iff.mp has
  have dismissed : (p.roster.dismiss t).2.1 = some c := by rw [Roster.dismiss_found, has]
  have source : p.roster.service.dropUser.1.source = p.roster.service.source := by
    unfold Counters.Service.dropUser
    split <;> rfl
  have roster : (p.roster.dismiss t).1.service = p.roster.service.dropUser.1 ∧
      (p.roster.dismiss t).1.libraryOrigin = p.roster.libraryOrigin := by
    simp only [Roster.dismiss, found, and_self]
  have profiles (u : ThreadId) :
      (p.serve t r).profiler.roster.profile? u = if u = t then none else p.roster.profile? u := by
    rw [serve, Request.read_finish finish]
    exact p.profile?_finish t u
  have ended : p.finish t =
      ⟨{ p with roster := (p.roster.dismiss t).1, archive := (p.archive.write c.report).1 },
        (p.archive.write c.report).2.1,
        (p.roster.dismiss t).2.2 ++ unfinished c ++ (p.archive.write c.report).2.2⟩ := by
    simp only [Profiler.finish, dismissed]
  simp only [serve, Request.read_finish finish, perform, ended, Reply.map] at profiles ⊢
  refine ⟨⟨rfl, profiles, roster.1, ?_, Archive.grows_write _ _⟩, trivial⟩
  simp only [terms, roster.1, source]
  congr 1
  funext origin
  rw [Roster.isLibrary, Roster.isLibrary, roster.2]

/-- No request changes the terms of the profiler or takes away a report. -/
theorem terms_serve (p : Profiler) (t : ThreadId) (r : Request) :
    (p.serve t r).profiler.terms = p.terms ∧ p.archive.Grows (p.serve t r).profiler.archive := by
  suffices effect : ∃ after service result, p.Effect t (p.serve t r) after service result by
    obtain ⟨_, _, _, effect⟩ := effect
    exact ⟨effect.terms, effect.archive⟩
  cases has : p.roster.profile? t with
  | some c =>
    by_cases finish : r.operation = .finish
    · exact ⟨_, _, _, (serve_of_finish has finish).1⟩
    · exact ⟨_, _, _, serve_of_some has finish⟩
  | none =>
    cases begins : r.declaration? p.terms with
    | none => exact ⟨_, _, _, serve_of_none has begins⟩
    | some d =>
      cases programmed : p.roster.service.addUser.2.1 with
      | error e => exact ⟨_, _, _, serve_of_refuses has begins programmed⟩
      | ok => exact ⟨_, _, _, serve_of_accepts has begins programmed⟩

theorem terms_serveAll (p : Profiler) (w : List (ThreadId × Request)) :
    (p.serveAll w).terms = p.terms := by
  induction w generalizing p with
  | nil => rfl
  | cons x w ih => exact (ih _).trans (p.terms_serve x.1 x.2).1

end Profiler

end SimdProfile

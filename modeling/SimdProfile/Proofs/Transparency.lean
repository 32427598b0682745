import SimdProfile.Proofs.Nesting
import SimdProfile.Proofs.Request.Alike

/-!
# Transparency of filtered regions

A region that is not recorded, because it is the library's or its kind is not enabled, leaves one
suppressed frame on the stack of its thread. No call looks below the innermost frame, so what goes on
inside the region passes this frame by, but for the observations made while it is itself the innermost
frame, and these are dropped. A run with the region and a run without it and without those observations
leave all profiles of one outline.
-/

namespace SimdProfile

namespace ThreadProfile

variable {c : ThreadProfile} {frame : Frame} {rest : List Frame}

/-- The profile with another stack. -/
def withStack (c : ThreadProfile) (frames : List Frame) : ThreadProfile := { c with stack := frames }

/-- An entry pushes the same frame on any stack. -/
theorem enter_withStack (c : ThreadProfile) (kind : RegionKind) (startLine endLine : Int32)
    (mask : UInt64) (snapshot : Option Snapshot) :
    ∃ frame, (c.enter kind startLine endLine mask snapshot).1.stack = frame :: c.stack ∧
      ∀ frames, ((c.withStack frames).enter kind startLine endLine mask snapshot).1 =
        (c.enter kind startLine endLine mask snapshot).1.withStack (frame :: frames) := by
  have records (frames : List Frame) : (c.withStack frames).records kind = c.records kind := rfl
  have slots (frames : List Frame) :
      (c.withStack frames).slot? ⟨startLine, kind⟩ = c.slot? ⟨startLine, kind⟩ := rfl
  cases hr : c.records kind with
  | false =>
    rw [enter_of_not_records hr]
    refine ⟨_, rfl, fun frames => ?_⟩
    rw [enter_of_not_records ((records frames).trans hr)]
    rfl
  | true =>
    cases hs : c.slot? ⟨startLine, kind⟩ with
    | some slot =>
      rw [enter_of_known hr hs]
      refine ⟨_, rfl, fun frames => ?_⟩
      rw [enter_of_known ((records frames).trans hr) ((slots frames).trans hs)]
      rfl
    | none =>
      rw [enter_of_new hr hs]
      refine ⟨_, rfl, fun frames => ?_⟩
      rw [enter_of_new ((records frames).trans hr) ((slots frames).trans hs)]
      rfl

/-- The end of an entry looks at its own frame only. -/
theorem leave_withStack (hs : c.stack = frame :: rest)
    (measure : Snapshot → Snapshot → Sample Float) (exit : Option Snapshot) (line : Int32)
    (frames : List Frame) :
    (c.withStack (frame :: frames)).act (.leave measure exit line) =
      (c.act (.leave measure exit line)).withStack frames := by
  rw [act_leave, act_leave, hs]
  cases frame <;> rfl

/-- An observation looks at the innermost frame only. -/
theorem observe_withStack (hs : c.stack = frame :: rest) (line : Int32) (mask : UInt64)
    (frames : List Frame) :
    (c.withStack (frame :: frames)).act (.observe line mask) =
      (c.act (.observe line mask)).withStack (frame :: frames) := by
  rw [act_observe, act_observe, hs]
  cases frame <;> rfl

end ThreadProfile

namespace Request

variable {c : ThreadProfile} {r : Request} {frame : Frame} {rest : List Frame}

/-- A start that is accepted pushes the same frame on any stack. -/
theorem start_withStack (start : r.operation = .start) (accepted : r.isRefused = false) (terms : Terms)
    (next : Snapshot) (c : ThreadProfile) :
    ∃ frame, (c.run (r.actions terms next c)).stack = frame :: c.stack ∧
      ∀ frames, (c.withStack frames).run (r.actions terms next (c.withStack frames)) =
        (c.run (r.actions terms next c)).withStack (frame :: frames) := by
  obtain ⟨origin, kindCode, startLine, endLine, task, mask, kind, read, known⟩ :=
    read_start start accepted
  simp only [actions, read, Call.actions, known]
  cases terms.isLibrary origin with
  | true => exact ⟨.suppressed kind, rfl, fun _ => rfl⟩
  | false =>
    exact (c.declareTask task).enter_withStack kind startLine endLine mask
      (if c.readsCounters && c.records kind then some next else none)

theorem stop_withStack (stop : r.operation = .stop) (hs : c.stack = frame :: rest) (terms : Terms)
    (next : Snapshot) :
    (c.run (r.actions terms next c)).stack = rest ∧
      ∀ frames, (c.withStack (frame :: frames)).run
          (r.actions terms next (c.withStack (frame :: frames))) =
        (c.run (r.actions terms next c)).withStack frames := by
  obtain ⟨kindCode, line, read⟩ := read_stop stop
  simp only [actions, read, Call.actions]
  exact ⟨c.stack_act_leave hs .., fun frames => c.leave_withStack hs _ _ line frames⟩

/-- The calls of a request go by the declaration alone. -/
theorem actions_withStack (r : Request) (terms : Terms) (next : Snapshot) (c : ThreadProfile)
    (frames : List Frame) : r.actions terms next (c.withStack frames) = r.actions terms next c := by
  unfold actions
  cases r.read with
  | error e => rfl
  | ok call => cases call <;> rfl

theorem quiet_withStack (quiet : r.isQuiet = true) (hs : c.stack = frame :: rest) (terms : Terms)
    (next : Snapshot) :
    (c.run (r.actions terms next c)).stack = c.stack ∧
      ∀ frames, (c.withStack (frame :: frames)).run
          (r.actions terms next (c.withStack (frame :: frames))) =
        (c.run (r.actions terms next c)).withStack (frame :: frames) := by
  obtain ⟨start, stop, -⟩ := operation_of_quiet quiet
  simp only [actions_withStack]
  rcases actions_of_other stop (.inl start) terms next c with acts | ⟨line, mask, acts⟩
  · rw [acts]
    exact ⟨rfl, fun _ => rfl⟩
  · rw [acts]
    exact ⟨c.stack_act_observe line mask, c.observe_withStack hs line mask⟩

/-- A declaration is no call on a profile that is there. -/
theorem actions_of_declare (declares : r.operation = .declare) (terms : Terms) (next : Snapshot)
    (c : ThreadProfile) : r.actions terms next c = [] := by
  unfold actions
  cases read : r.read with
  | error e => rfl
  | ok call =>
    have named := (operation_of_read read).trans declares
    cases call with
    | declare => rfl
    | _ => cases named

/-- An observation under a suppressed frame does nothing. -/
theorem quiet_of_suppressed (quiet : r.isQuiet = true) {kind : RegionKind}
    (hs : c.stack = .suppressed kind :: rest) (terms : Terms) (next : Snapshot) :
    c.run (r.actions terms next c) = c := by
  obtain ⟨start, stop, -⟩ := operation_of_quiet quiet
  rcases actions_of_other stop (.inl start) terms next c with acts | ⟨line, mask, acts⟩
  · rw [acts]
    rfl
  · rw [acts, ThreadProfile.run_cons, c.act_observe, hs]
    rfl

theorem stop_of_suppressed (stop : r.operation = .stop) {kind : RegionKind}
    (hs : c.stack = .suppressed kind :: rest) (terms : Terms) (next : Snapshot) :
    c.run (r.actions terms next c) = c.withStack rest := by
  obtain ⟨kindCode, line, read⟩ := read_stop stop
  simp only [actions, read, Call.actions, ThreadProfile.run_cons, c.act_leave, hs]
  rfl

end Request

/-- Requests inside a region, without the observations that the thread makes of the region itself, while
no entry inside it is open. The depth counts the open entries inside. -/
def unshadowed (t : ThreadId) : Nat → List (ThreadId × Request) → List (ThreadId × Request)
  | _, [] => []
  | depth, (u, r) :: w =>
    if u = t then
      match r.operation with
      | .start => (u, r) :: unshadowed t (depth + 1) w
      | .stop => (u, r) :: unshadowed t (depth - 1) w
      | .iteration | .branch =>
        if depth = 0 then unshadowed t depth w else (u, r) :: unshadowed t depth w
      | _ => (u, r) :: unshadowed t depth w
    else (u, r) :: unshadowed t depth w

section Unshadowed

variable {t u : ThreadId} {r : Request} {v w : List (ThreadId × Request)}

theorem unshadowed_other (other : u ≠ t) (depth : Nat) (w : List (ThreadId × Request)) :
    unshadowed t depth ((u, r) :: w) = (u, r) :: unshadowed t depth w := by
  rw [unshadowed, if_neg other]

theorem unshadowed_start (start : r.operation = .start) (depth : Nat) (w : List (ThreadId × Request)) :
    unshadowed t depth ((t, r) :: w) = (t, r) :: unshadowed t (depth + 1) w := by
  rw [unshadowed, if_pos rfl, start]

theorem unshadowed_stop (stop : r.operation = .stop) (depth : Nat) (w : List (ThreadId × Request)) :
    unshadowed t (depth + 1) ((t, r) :: w) = (t, r) :: unshadowed t depth w := by
  rw [unshadowed, if_pos rfl, stop]
  rfl

/-- A quiet request is left out only if it observes the region itself. -/
theorem unshadowed_quiet (quiet : r.isQuiet = true) (t : ThreadId) (depth : Nat) :
    (depth = 0 → r.operation = .declare) ∧
        (∀ w, unshadowed t depth ((t, r) :: w) = (t, r) :: unshadowed t depth w) ∨
      depth = 0 ∧ ∀ w, unshadowed t depth ((t, r) :: w) = unshadowed t depth w := by
  unfold Request.isQuiet at quiet
  cases named : r.operation with
  | declare => exact .inl ⟨fun _ => rfl, fun w => by rw [unshadowed, if_pos rfl, named]⟩
  | start | stop | finish => simp [named] at quiet
  | iteration | branch =>
    by_cases outside : depth = 0
    · exact .inr ⟨outside, fun w => by rw [unshadowed, if_pos rfl, named]; exact if_pos outside⟩
    · exact .inl ⟨fun zero => absurd zero outside,
        fun w => by rw [unshadowed, if_pos rfl, named]; exact if_neg outside⟩

theorem unshadowed_append (nested : WellNested t v) (depth : Nat) (w : List (ThreadId × Request)) :
    unshadowed t depth (v ++ w) = unshadowed t depth v ++ unshadowed t depth w := by
  induction nested generalizing depth w with
  | nil => rfl
  | other differs _ ih =>
    rw [List.cons_append, unshadowed_other differs, unshadowed_other differs, ih, List.cons_append]
  | quiet isQuiet _ ih =>
    rcases unshadowed_quiet isQuiet t depth with ⟨-, keeps⟩ | ⟨-, drops⟩
    · rw [List.cons_append, keeps, keeps, ih, List.cons_append]
    · rw [List.cons_append, drops, drops, ih]
  | @region s e body v start _ stop _ ihBody ihRest =>
    rw [List.append_assoc, List.cons_append, List.cons_append, List.cons_append, unshadowed_start start,
      unshadowed_start start, ihBody, ihBody, unshadowed_stop stop, unshadowed_stop stop, ihRest]
    simp only [List.cons_append, List.append_assoc]

end Unshadowed

namespace Profiler

variable {p q : Profiler} {t u : ThreadId} {r : Request}

/-- Profilers with the same terms, services that differ in their snapshots only, and profiles of one
outline of all threads but those of `except`. -/
structure Alike (except : ThreadId → Prop) (p q : Profiler) : Prop where
  terms : p.terms = q.terms
  service : p.roster.service.untaken = q.roster.service.untaken
  outlines : ∀ u, ¬ except u →
    (p.roster.profile? u).map (·.outline) = (q.roster.profile? u).map (·.outline)

variable {except : ThreadId → Prop}

/-- Every request of a thread that is served alike keeps all threads alike. -/
theorem Alike.serve (h : Alike except p q) (own : ¬ except t) (r : Request) :
    Alike except (p.serve t r).profiler (q.serve t r).profiler where
  terms := ((p.terms_serve t r).1.trans h.terms).trans (q.terms_serve t r).1.symm
  service := (serve_alike h.terms (h.outlines t own)
    (Counters.Service.addUser_of_untaken h.service).1 r).2.1 h.service
  outlines u included := by
    by_cases same : u = t
    · subst same
      exact outline_serve h.terms (h.outlines u own)
        (Counters.Service.addUser_of_untaken h.service).1 r
    · rw [p.profile?_serve_of_ne same, q.profile?_serve_of_ne same]
      exact h.outlines u included

theorem Alike.serveAll (h : Alike (fun _ => False) p q) (w : List (ThreadId × Request)) :
    Alike (fun _ => False) (p.serveAll w) (q.serveAll w) := by
  induction w generalizing p q with
  | nil => exact h
  | cons x w ih => exact ih (h.serve id x.2)

/-! ### The covered frame -/

/-- Thread `t` has a suppressed frame under `depth` others in the first profiler and not in the second.
All else is alike. -/
structure Shadowed (t : ThreadId) (kind : RegionKind) (depth : Nat) (p q : Profiler) : Prop extends
    Alike (· = t) p q where
  covered : ∃ c d above below, p.roster.profile? t = some c ∧ q.roster.profile? t = some d ∧
    above.length = depth ∧ d.stack = above ++ below ∧
      c.outline = (d.withStack (above ++ .suppressed kind :: below)).outline

variable {kind : RegionKind} {depth : Nat}

theorem Shadowed.other (h : Shadowed t kind depth p q) (differs : u ≠ t) (r : Request) :
    Shadowed t kind depth (p.serve u r).profiler (q.serve u r).profiler where
  toAlike := h.toAlike.serve differs r
  covered := by
    rw [p.profile?_serve_of_ne (Ne.symm differs), q.profile?_serve_of_ne (Ne.symm differs)]
    exact h.covered

/-- A request on a profile changes no other and no more of the counters than their snapshots. -/
theorem alike_serve {c : ThreadProfile} (has : p.roster.profile? t = some c)
    (goes : r.operation ≠ .finish) : Alike (· = t) (p.serve t r).profiler p where
  terms := (p.terms_serve t r).1
  service := by
    rw [(serve_of_some has goes).service]
    rfl
  outlines u differs := by rw [p.profile?_serve_of_ne differs]

theorem Alike.symm {except : ThreadId → Prop} (h : Alike except p q) : Alike except q p :=
  ⟨h.terms.symm, h.service.symm, fun u included => (h.outlines u included).symm⟩

theorem Alike.trans {except : ThreadId → Prop} {o : Profiler} (h : Alike except p q)
    (h' : Alike except q o) : Alike except p o :=
  ⟨h.terms.trans h'.terms, h.service.trans h'.service,
    fun u included => (h.outlines u included).trans (h'.outlines u included)⟩

/-- A request that does not reach down to the covered frame. -/
theorem Shadowed.serve (h : Shadowed t kind depth p q) (goes : r.operation ≠ .finish) {depth' : Nat}
    (passes : ∀ (d : ThreadProfile) above below, above.length = depth → d.stack = above ++ below →
      ∃ above', above'.length = depth' ∧
        (d.run (r.actions q.terms q.nextSnapshot d)).stack = above' ++ below ∧
          let covered := d.withStack (above ++ .suppressed kind :: below)
          covered.run (r.actions q.terms q.nextSnapshot covered) =
            (d.run (r.actions q.terms q.nextSnapshot d)).withStack
              (above' ++ .suppressed kind :: below)) :
    Shadowed t kind depth' (p.serve t r).profiler (q.serve t r).profiler := by
  obtain ⟨c, d, above, below, hasP, hasQ, length, stack, outline⟩ := h.covered
  obtain ⟨above', length', stack', covered⟩ := passes d above below length stack
  refine ⟨((alike_serve hasP goes).trans h.toAlike).trans (alike_serve hasQ goes).symm,
    _, _, above', below, (serve_of_some hasP goes).own, (serve_of_some hasQ goes).own, length', stack',
    ?_⟩
  rw [h.terms, ← covered]
  exact Request.outline_actions outline ..

theorem Shadowed.start (h : Shadowed t kind depth p q) (start : r.operation = .start)
    (accepted : r.isRefused = false) :
    Shadowed t kind (depth + 1) (p.serve t r).profiler (q.serve t r).profiler := by
  refine h.serve (by simp [start]) fun d above below length stack => ?_
  obtain ⟨frame, pushed, same⟩ := Request.start_withStack start accepted q.terms q.nextSnapshot d
  exact ⟨frame :: above, congrArg _ length, by rw [pushed, stack, List.cons_append], same _⟩

theorem Shadowed.stop (h : Shadowed t kind (depth + 1) p q) (stop : r.operation = .stop) :
    Shadowed t kind depth (p.serve t r).profiler (q.serve t r).profiler := by
  refine h.serve (by simp [stop]) fun d above below length stack => ?_
  obtain ⟨frame, above, rfl⟩ := List.exists_cons_of_length_eq_add_one length
  obtain ⟨popped, same⟩ := Request.stop_withStack stop stack q.terms q.nextSnapshot
  exact ⟨above, Nat.succ.inj length, popped, same _⟩

theorem Shadowed.quiet (h : Shadowed t kind depth p q) (quiet : r.isQuiet = true)
    (kept : depth = 0 → r.operation = .declare) :
    Shadowed t kind depth (p.serve t r).profiler (q.serve t r).profiler := by
  obtain ⟨start, stop, finish⟩ := Request.operation_of_quiet quiet
  refine h.serve finish fun d above below length stack => ?_
  cases above with
  | nil =>
    simp only [Request.actions_of_declare (kept length.symm)]
    exact ⟨[], length, stack, rfl⟩
  | cons frame above =>
    obtain ⟨same, covered⟩ := Request.quiet_withStack quiet stack q.terms q.nextSnapshot
    exact ⟨frame :: above, length, same.trans stack, covered _⟩

/-- An observation of the covered region itself. -/
theorem Shadowed.hidden (h : Shadowed t kind 0 p q) (quiet : r.isQuiet = true) :
    Shadowed t kind 0 (p.serve t r).profiler q := by
  obtain ⟨start, stop, finish⟩ := Request.operation_of_quiet quiet
  obtain ⟨c, d, above, below, hasP, hasQ, length, stack, outline⟩ := h.covered
  obtain rfl := List.eq_nil_of_length_eq_zero length
  refine ⟨(alike_serve hasP finish).trans h.toAlike, _, d, [], below, (serve_of_some hasP finish).own, hasQ,
    rfl, stack, ?_⟩
  have idle := Request.quiet_of_suppressed (c := d.withStack (.suppressed kind :: below)) quiet rfl
    p.terms p.nextSnapshot
  exact (Request.outline_actions outline ..).trans (congrArg _ idle)

/-- Nested requests above the covered frame never reach it, once those of it itself are left out. -/
theorem Shadowed.serveAll {w : List (ThreadId × Request)} (nested : WellNested t w)
    (accepted : refusals t w = 0) (h : Shadowed t kind depth p q) :
    Shadowed t kind depth (p.serveAll w) (q.serveAll (unshadowed t depth w)) := by
  induction nested generalizing p q depth with
  | nil => exact h
  | @other u r w differs _ ih =>
    rw [unshadowed_other differs]
    rw [refusals_other differs] at accepted
    exact ih accepted (h.other differs r)
  | @quiet r w quiet _ ih =>
    rw [refusals_quiet quiet] at accepted
    rcases unshadowed_quiet quiet t depth with ⟨kept, keeps⟩ | ⟨rfl, drops⟩
    · rw [keeps]
      exact ih accepted (h.quiet quiet kept)
    · rw [drops]
      exact ih accepted (h.hidden quiet)
  | @region s e body w start nested stop _ ihBody ihRest =>
    -- Inside the region its own frame lies over the covered one, so this is one deeper there.
    obtain ⟨taken, inside, after⟩ := accepted_of_refusals_region stop accepted
    rw [List.cons_append, unshadowed_start start, unshadowed_append nested, unshadowed_stop stop,
      serveAll_cons, serveAll_cons, serveAll_append, serveAll_append, serveAll_cons, serveAll_cons]
    exact ihRest after ((ihBody inside (h.start start taken)).stop stop)

/-- The stop of the covered region uncovers it. -/
theorem Shadowed.ended (h : Shadowed t kind 0 p q) (stop : r.operation = .stop) :
    Alike (fun _ => False) (p.serve t r).profiler q := by
  obtain ⟨c, d, above, below, hasP, hasQ, length, stack, outline⟩ := h.covered
  obtain rfl := List.eq_nil_of_length_eq_zero length
  have goes : r.operation ≠ .finish := by simp [stop]
  have same := (alike_serve hasP goes).trans h.toAlike
  refine ⟨same.terms, same.service, fun u _ => ?_⟩
  by_cases own : u = t
  · have uncovered := Request.stop_of_suppressed (c := d.withStack (.suppressed kind :: below)) stop
      rfl p.terms p.nextSnapshot
    have left : (c.run (r.actions p.terms p.nextSnapshot c)).outline = d.outline := by
      refine (Request.outline_actions outline ..).trans ((congrArg _ uncovered).trans ?_)
      rw [ThreadProfile.outline, ThreadProfile.outline, stack]
      rfl
    rw [own, (serve_of_some hasP goes).own, hasQ, Option.map_some, left, Option.map_some]
  · exact same.outlines u own

/-- A region that is not recorded goes unnoticed, but for the observations of itself, which are lost. -/
theorem filtered_region_transparent {p : Profiler} {t : ThreadId} {c : ThreadProfile} {s e : Request}
    {origin : String} {kindCode startLine endLine task : Int32} {mask : UInt64} {kind : RegionKind}
    {e₁ w : List (ThreadId × Request)} (has : (p.serveAll e₁).roster.profile? t = some c)
    (reads : s.read = .ok (.start origin kindCode startLine endLine task mask))
    (known : RegionKind.ofCode? kindCode = some kind)
    (filtered : (p.serveAll e₁).roster.isLibrary origin = true ∨ c.records kind = false)
    (nested : WellNested t w) (accepted : refusals t w = 0) (stop : e.operation = .stop)
    (e₂ : List (ThreadId × Request)) (u : ThreadId) :
    ((p.serveAll (e₁ ++ (t, s) :: w ++ (t, e) :: e₂)).roster.profile? u).map (·.outline) =
      ((p.serveAll (e₁ ++ unshadowed t 0 w ++ e₂)).roster.profile? u).map (·.outline) := by
  let q := p.serveAll e₁
  have goes : s.operation ≠ .finish := by
    rw [← Request.operation_of_read reads]
    exact nofun
  have begun : Shadowed t kind 0 (q.serve t s).profiler q := by
    refine ⟨alike_serve has goes, _, c, [], c.stack, (serve_of_some has goes).own, has, rfl, rfl, ?_⟩
    simp only [Request.actions, reads, Call.actions, known]
    cases library : q.terms.isLibrary origin with
    | true => rfl
    | false =>
      have unrecorded : c.records kind = false := by
        rcases filtered with foreign | unrecorded
        · cases foreign.symm.trans library
        · exact unrecorded
      have suppressed := ThreadProfile.enter_of_not_records (p := c.declareTask task) unrecorded
        startLine endLine mask
      simp only [Bool.false_eq_true, if_false, ThreadProfile.run_cons, ThreadProfile.act, suppressed]
      rfl
  have ended := ((begun.serveAll nested accepted).ended stop).serveAll e₂
  have left : p.serveAll (e₁ ++ (t, s) :: w ++ (t, e) :: e₂) =
      ((((q.serve t s).profiler.serveAll w).serve t e).profiler).serveAll e₂ := by
    simp only [serveAll_append, serveAll_cons]
    rfl
  rw [left, serveAll_append, serveAll_append]
  exact ended.outlines u id

/-- A loop observes itself, a function that it calls and that is not recorded, and itself again. -/
theorem unrecorded_function_transparent :
    let t : ThreadId := ⟨1⟩
    let p := create .default .disabled ⟨2024, 1, 2, 3, 4, 5⟩ .empty
    let enter : ThreadId × Request := (t, .direct (.start "kernel" 4 3 9 0 0xff))
    let leave : ThreadId × Request := (t, .direct (.stop 4 9))
    let see (line : Int32) : ThreadId × Request := (t, .direct (.iteration "body" line 0x0f 4))
    let e₁ := [(t, .direct (.declare "kernel" 1 8 0x44)), enter, see 4]
    let s : Request := .direct (.start "kernel" 32 20 29 0 0xff)
    let w := [see 21, enter, see 5, leave, see 22]
    let e : Request := .direct (.stop 32 29)
    let e₂ := [see 6, leave]
    ∃ c, (p.serveAll e₁).roster.profile? t = some c ∧
      s.read = .ok (.start "kernel" 32 20 29 0 0xff) ∧
      RegionKind.ofCode? 32 = some .function ∧ c.records .function = false ∧
      WellNested t w ∧ refusals t w = 0 ∧ e.operation = .stop ∧
      unshadowed t 0 w = [enter, see 5, leave] ∧
      ((p.serveAll (e₁ ++ (t, s) :: w ++ (t, e) :: e₂)).roster.profile? t).map (·.outline) =
        ((p.serveAll (e₁ ++ [enter, see 5, leave] ++ e₂)).roster.profile? t).map (·.outline) := by
  intro t p enter leave see e₁ s w e e₂
  have profiled : ((p.serveAll e₁).roster.profile? t).isSome := by decide
  obtain ⟨c, has⟩ := Option.isSome_iff_exists.mp profiled
  have records : ((p.serveAll e₁).roster.profile? t).map (·.records .function) = some false := by decide
  rw [has, Option.map_some, Option.some.injEq] at records
  have reads : s.read = .ok (.start "kernel" 32 20 29 0 0xff) := rfl
  have known : RegionKind.ofCode? 32 = some .function := rfl
  have nested : WellNested t w :=
    .quiet rfl (@WellNested.region t _ _ [see 5] [see 22] rfl (.quiet rfl .nil) rfl (.quiet rfl .nil))
  have accepted : refusals t w = 0 := by decide
  have stop : e.operation = .stop := rfl
  exact ⟨c, has, reads, known, records, nested, accepted, stop, rfl,
    filtered_region_transparent has reads known (.inr records) nested accepted stop e₂ t⟩

end Profiler

end SimdProfile

import SimdProfile.Proofs.Request

/-!
# Nested regions

Compiled code starts and stops regions in pairs, one inside the other. The requests of a thread nest if
every start has a stop of its own; other threads may come in between anywhere. Whether the stack of the
thread follows depends on the starts. One that is accepted leaves a frame for its stop. One that is
refused leaves none, and its stop takes the frame of the region around it. A region of the library that
starts before there is a profile leaves none either, and finds the stack empty at its stop.
-/

namespace SimdProfile

/-- The requests of a thread nest: every start has a stop of its own behind it, and what stands between
them nests again. -/
inductive WellNested (t : ThreadId) : List (ThreadId × Request) → Prop
  | nil : WellNested t []
  | other {u : ThreadId} {r : Request} {w : List (ThreadId × Request)} :
      u ≠ t → WellNested t w → WellNested t ((u, r) :: w)
  | quiet {r : Request} {w : List (ThreadId × Request)} :
      r.isQuiet = true → WellNested t w → WellNested t ((t, r) :: w)
  | region {s e : Request} {body w : List (ThreadId × Request)} :
      s.operation = .start → WellNested t body → e.operation = .stop → WellNested t w →
      WellNested t ((t, s) :: body ++ (t, e) :: w)

/-- The number of starts of a thread that are refused. -/
def refusals (t : ThreadId) (w : List (ThreadId × Request)) : Nat :=
  w.countP fun x => x.1 == t && x.2.isRefused

section Refusals

variable {t u : ThreadId} {r s e : Request} {body w : List (ThreadId × Request)}

theorem refusals_other (other : u ≠ t) : refusals t ((u, r) :: w) = refusals t w := by
  simp [refusals, other]

theorem refusals_quiet (quiet : r.isQuiet = true) : refusals t ((t, r) :: w) = refusals t w := by
  simp [refusals, Request.isRefused_of_ne (Request.operation_of_quiet quiet).1]

theorem refusals_region (stop : e.operation = .stop) :
    refusals t ((t, s) :: body ++ (t, e) :: w) =
      (if s.isRefused = true then 1 else 0) + refusals t body + refusals t w := by
  have accepted : e.isRefused = false := Request.isRefused_of_ne (by simp [stop])
  simp only [refusals, List.cons_append, List.countP_cons, List.countP_append, accepted,
    beq_self_eq_true, Bool.true_and, Bool.false_eq_true, if_false]
  omega

/-- Without a refusal the start of a region is accepted, as is everything inside and after it. -/
theorem accepted_of_refusals_region (stop : e.operation = .stop)
    (accepted : refusals t ((t, s) :: body ++ (t, e) :: w) = 0) :
    s.isRefused = false ∧ refusals t body = 0 ∧ refusals t w = 0 := by
  rw [refusals_region stop] at accepted
  cases hs : s.isRefused with
  | true =>
    rw [if_pos hs] at accepted
    omega
  | false => exact ⟨rfl, by omega, by omega⟩

end Refusals

namespace Profiler

variable (p : Profiler) {t : ThreadId} {r : Request}

/-- The open frames of a thread, none if it has no profile. -/
def openFrames (t : ThreadId) : List Frame :=
  ((p.roster.profile? t).map (·.stack)).getD []

/-- What a thread has recorded and what it has open. -/
def standing (t : ThreadId) : Option (List Frame × List Region) :=
  (p.roster.profile? t).map fun c => (c.stack, c.regions)

theorem openFrames_eq_standing (t : ThreadId) :
    p.openFrames t = ((p.standing t).map (·.1)).getD [] := by
  rw [openFrames, standing, Option.map_map]
  rfl

variable {p}

theorem openFrames_of_some {c : ThreadProfile} (has : p.roster.profile? t = some c) :
    p.openFrames t = c.stack := by
  rw [openFrames, has, Option.map_some, Option.getD_some]

theorem openFrames_of_none (has : p.roster.profile? t = none) : p.openFrames t = [] := by
  rw [openFrames, has, Option.map_none, Option.getD_none]

theorem openFrames_of_enlists {c : ThreadProfile} (enlists : p.roster.Enlists t c) :
    p.openFrames t = c.stack := by
  rcases enlists with has | ⟨has, d, rfl⟩
  · exact openFrames_of_some has
  · exact openFrames_of_none has

variable (p)

/-! ### One request -/

theorem openFrames_serve_of_ne {u : ThreadId} (other : u ≠ t) (r : Request) :
    (p.serve u r).profiler.openFrames t = p.openFrames t := by
  rw [openFrames, p.profile?_serve_of_ne (Ne.symm other), openFrames]

theorem openFrames_serve_of_refused (h : r.isRefused = true) :
    (p.serve t r).profiler.openFrames t = p.openFrames t := by
  obtain ⟨e, same⟩ := p.serve_of_refused h t
  rw [same]
  rfl

/-- A start that is not refused leaves one frame for its stop, if there is a stack at all. -/
theorem tail_openFrames_serve_of_accepted (h : r.operation = .start) (accepted : r.isRefused = false) :
    ((p.serve t r).profiler.openFrames t).tail = p.openFrames t := by
  rcases p.serve_of_accepted h accepted with
    ⟨before, gone⟩ | ⟨c, after, id, enlists, entered, -, here⟩
  · rw [openFrames_of_none before, openFrames_of_none gone, List.tail_nil]
  · obtain ⟨frame, stack, -⟩ := entered.stack
    rw [openFrames_of_some here, stack, List.tail_cons, openFrames_of_enlists enlists]

theorem openFrames_serve_of_quiet (h : r.isQuiet = true) :
    (p.serve t r).profiler.openFrames t = p.openFrames t := by
  rcases p.serve_of_quiet h t with same | ⟨c, after, enlists, rested, here⟩
  · rw [openFrames, same, openFrames]
  · rw [openFrames_of_some here, rested.stack, openFrames_of_enlists enlists]

/-- A stop takes the innermost frame, whichever start left it. -/
theorem openFrames_serve_of_stop (h : r.operation = .stop) :
    (p.serve t r).profiler.openFrames t = (p.openFrames t).tail := by
  cases before : p.roster.profile? t with
  | none =>
    rw [p.serve_of_stop_of_none h before, openFrames_of_none before]
    exact openFrames_of_none before
  | some c =>
    rw [openFrames_of_some before]
    cases hs : c.stack with
    | nil => rw [openFrames_of_some (p.serve_of_stop_of_empty h before hs).2, hs, List.tail_nil]
    | cons frame rest =>
      obtain ⟨-, measure, exit, line, here⟩ := p.serve_of_stop_of_cons h before hs
      rw [openFrames_of_some here, c.stack_act_leave hs, List.tail_cons]

/-! ### Nested requests -/

/-- Each refused start costs the thread one frame, and nothing else does. -/
theorem openFrames_serveAll {w : List (ThreadId × Request)} (nested : WellNested t w) :
    (p.serveAll w).openFrames t = (p.openFrames t).drop (refusals t w) := by
  induction nested generalizing p with
  | nil => rfl
  | @other u r w other _ ih =>
    rw [serveAll_cons, ih, p.openFrames_serve_of_ne other, refusals_other other]
  | @quiet r w quiet _ ih =>
    rw [serveAll_cons, ih, p.openFrames_serve_of_quiet quiet, refusals_quiet quiet]
  | @region s e body w start _ stop _ ihBody ihRest =>
    rw [refusals_region stop, List.cons_append, serveAll_cons, serveAll_append, serveAll_cons,
      ihRest, openFrames_serve_of_stop _ stop, ihBody, List.tail_drop, List.drop_drop]
    cases refused : s.isRefused with
    | true =>
      rw [p.openFrames_serve_of_refused refused, if_pos rfl]
      congr 1
      omega
    | false =>
      rw [← p.tail_openFrames_serve_of_accepted start refused, if_neg Bool.false_ne_true,
        ← List.drop_one, List.drop_drop]
      congr 1
      omega

/-- A stop whose stack is empty is answered with an error and changes no profile. -/
theorem serve_of_stop_of_openFrames (h : r.operation = .stop) (empty : p.openFrames t = []) :
    (∃ e, (p.serve t r).result = .error e) ∧
      (p.serve t r).profiler.roster.profile? t = p.roster.profile? t := by
  cases has : p.roster.profile? t with
  | none =>
    rw [p.serve_of_stop_of_none h has]
    exact ⟨⟨_, rfl⟩, has⟩
  | some c =>
    rw [openFrames_of_some has] at empty
    obtain ⟨⟨line, result⟩, same⟩ := p.serve_of_stop_of_empty h has empty
    exact ⟨⟨_, result⟩, same⟩

/-! ### Refused starts -/

variable {s e : Request} {w : List (ThreadId × Request)}

/-- The stop of a refused start takes the frame of the region around it, and is answered as if it were
that region's own. It goes unnoticed only if there is no such region. -/
theorem refused_start_unnoticed_iff (refused : s.isRefused = true) (nested : WellNested t w)
    (accepted : refusals t w = 0) (stop : e.operation = .stop) :
    let alone := p.serveAll w
    let reply := (p.serveAll ((t, s) :: w)).serve t e
    (reply.profiler.standing t = alone.standing t ↔ p.openFrames t = []) ∧
      reply.profiler.openFrames t = (alone.openFrames t).tail ∧
      ∀ c frame rest, alone.roster.profile? t = some c → c.stack = frame :: rest →
        reply.result = .ok (.region (c.frameId? frame)) := by
  intro alone reply
  have unchanged : p.serveAll ((t, s) :: w) = alone := by
    obtain ⟨error, same⟩ := p.serve_of_refused refused t
    rw [serveAll_cons, same]
    rfl
  have before : alone.openFrames t = p.openFrames t := by
    rw [p.openFrames_serveAll nested, accepted, List.drop_zero]
  have after : reply.profiler.openFrames t = (alone.openFrames t).tail := by
    rw [openFrames_serve_of_stop _ stop, unchanged]
  refine ⟨⟨fun same => ?_, fun empty => ?_⟩, after, ?_⟩
  · rw [openFrames_eq_standing, same, ← openFrames_eq_standing, before] at after
    have shorter := congrArg List.length after
    rw [List.length_tail] at shorter
    exact List.eq_nil_of_length_eq_zero (by omega)
  · obtain ⟨-, kept⟩ := alone.serve_of_stop_of_openFrames stop (before.trans empty)
    rw [← unchanged] at kept
    rw [standing, kept, unchanged, standing]
  · intro c frame rest has opened
    have := alone.serve_of_stop_of_cons stop has opened
    rw [← unchanged] at this
    exact this.1

/-- A function that starts inside a loop but names no origin: where it stops, the loop is stopped. -/
theorem loop_stops_with_refused_start :
    let t : ThreadId := ⟨1⟩
    let p := (create .default .disabled ⟨2024, 1, 2, 3, 4, 5⟩ .empty).serveAll
      [(t, .direct (.start "kernel" 4 3 9 0 0xff))]
    let s : Request := .hosted (.start none 32 5 8 0 0xff)
    let w : List (ThreadId × Request) := [(t, .direct (.iteration "" 6 0xff 4))]
    let e : Request := .hosted (.stop 32 8)
    let reply := (p.serveAll ((t, s) :: w)).serve t e
    s.isRefused = true ∧ WellNested t w ∧ refusals t w = 0 ∧ e.operation = .stop ∧
      (p.serveAll w).openFrames t ≠ [] ∧ reply.profiler.openFrames t = [] ∧
      reply.profiler.standing t ≠ (p.serveAll w).standing t := by
  intro t p s w e reply
  have refused : s.isRefused = true := rfl
  have nested : WellNested t w := .quiet rfl .nil
  have accepted : refusals t w = 0 := by decide
  have stop : e.operation = .stop := rfl
  obtain ⟨unnoticed, taken, -⟩ := p.refused_start_unnoticed_iff refused nested accepted stop
  have around : p.openFrames t ≠ [] := by decide
  have around' : (p.serveAll w).openFrames t ≠ [] := by decide
  have last : ((p.serveAll w).openFrames t).tail = [] := by decide
  exact ⟨refused, nested, accepted, stop, around', taken.trans last, fun same => around (unnoticed.mp same)⟩

/-! ### Regions of the library -/

variable {origin : String} {kindCode startLine endLine task : Int32} {mask : UInt64}
  {kind : RegionKind}

theorem profile?_serve_of_library
    (reads : s.read = .ok (.start origin kindCode startLine endLine task mask))
    (known : RegionKind.ofCode? kindCode = some kind)
    (library : p.roster.isLibrary origin = true) (t : ThreadId) :
    (p.serve t s).profiler.roster.profile? t = (p.roster.profile? t).map (·.suppress kind) := by
  simp only [serve, reads, perform, p.start_of_library known library, Reply.map]
  exact p.roster.profile?_amend_self t _

/-- A region of the library stays balanced if the thread had a profile when it started and no start
inside it was refused, and only then. Without a profile at its start it finds the stack empty. -/
theorem library_region_balanced_iff
    (reads : s.read = .ok (.start origin kindCode startLine endLine task mask))
    (known : RegionKind.ofCode? kindCode = some kind)
    (library : p.roster.isLibrary origin = true) (nested : WellNested t w)
    (stop : e.operation = .stop)
    (profiled : ((p.serveAll ((t, s) :: w)).roster.profile? t).isSome) :
    let reply := (p.serveAll ((t, s) :: w)).serve t e
    (reply.result = .ok (.region none) ∧
        (reply.profiler.openFrames t).length = (p.openFrames t).length ↔
      (p.roster.profile? t).isSome ∧ refusals t w = 0) ∧
      (p.roster.profile? t = none → ∃ line, reply.result = .error (.unbalancedEnd line)) := by
  intro reply
  obtain ⟨inner, has⟩ := Option.isSome_iff_exists.mp profiled
  have started := p.profile?_serve_of_library reads known library t
  have inside : inner.stack = ((p.serve t s).profiler.openFrames t).drop (refusals t w) := by
    rw [← openFrames_of_some has, serveAll_cons, openFrames_serveAll _ nested]
  have after : reply.profiler.openFrames t = inner.stack.tail := by
    rw [openFrames_serve_of_stop _ stop, openFrames_of_some has]
  cases before : p.roster.profile? t with
  | none =>
    rw [before, Option.map_none] at started
    rw [openFrames_of_none started, List.drop_nil] at inside
    obtain ⟨line, result⟩ := (serve_of_stop_of_empty _ stop has inside).1
    have failed : reply.result = .error (.unbalancedEnd line) := result
    refine ⟨⟨?_, ?_⟩, fun _ => ⟨line, failed⟩⟩
    · rintro ⟨balanced, -⟩
      cases failed.symm.trans balanced
    · rintro ⟨profiled, -⟩
      cases profiled
  | some c =>
    rw [before, Option.map_some] at started
    rw [openFrames_of_some started] at inside
    rw [after, openFrames_of_some before]
    refine ⟨⟨?_, ?_⟩, fun none => by cases none⟩
    · rintro ⟨balanced, depth⟩
      refine ⟨rfl, ?_⟩
      have height : inner.stack.length = c.stack.length + 1 - refusals t w := by
        rw [inside, List.length_drop]
        rfl
      -- The stop has found a frame, so the depths differ by as many frames as starts were refused.
      cases hs : inner.stack with
      | nil =>
        obtain ⟨line, result⟩ := (serve_of_stop_of_empty _ stop has hs).1
        cases result.symm.trans balanced
      | cons frame rest =>
        rw [hs, List.length_cons] at height
        rw [hs, List.tail_cons] at depth
        omega
    · rintro ⟨-, accepted⟩
      rw [accepted, List.drop_zero] at inside
      refine ⟨(serve_of_stop_of_cons _ stop has inside).1, ?_⟩
      rw [inside]
      rfl

/-- A library function that starts before the thread has declared its program. -/
theorem early_library_region_unbalanced :
    let t : ThreadId := ⟨1⟩
    let p := create .default .disabled ⟨2024, 1, 2, 3, 4, 5⟩ .empty
    let s : Request := .direct (.start "lib/stdlib.ispc" 32 1 9 0 0xff)
    let w : List (ThreadId × Request) :=
      [(t, .direct (.declare "kernel" 1 8 62)), (t, .direct (.start "kernel" 4 3 6 0 0xff)),
        (t, .direct (.stop 4 6))]
    let e : Request := .direct (.stop 32 9)
    let reply := (p.serveAll ((t, s) :: w)).serve t e
    s.read = .ok (.start "lib/stdlib.ispc" 32 1 9 0 0xff) ∧
      RegionKind.ofCode? 32 = some .function ∧ p.roster.isLibrary "lib/stdlib.ispc" = true ∧
      WellNested t w ∧ e.operation = .stop ∧
      ((p.serveAll ((t, s) :: w)).roster.profile? t).isSome ∧
      (∃ line, reply.result = .error (.unbalancedEnd line)) := by
  intro t p s w e reply
  have reads : s.read = .ok (.start "lib/stdlib.ispc" 32 1 9 0 0xff) := rfl
  have known : RegionKind.ofCode? 32 = some .function := rfl
  have library : p.roster.isLibrary "lib/stdlib.ispc" = true := by decide
  have nested : WellNested t w := .quiet rfl (@WellNested.region t _ _ [] [] rfl .nil rfl .nil)
  have stop : e.operation = .stop := rfl
  have profiled : ((p.serveAll ((t, s) :: w)).roster.profile? t).isSome := by decide
  have early : p.roster.profile? t = none := rfl
  obtain ⟨-, unbalanced⟩ :=
    p.library_region_balanced_iff reads known library nested stop profiled
  exact ⟨reads, known, library, nested, stop, profiled, unbalanced early⟩

end Profiler

end SimdProfile

import SimdProfile.Proofs.Nesting
import SimdProfile.Proofs.Profile.Entries

/-!
# Starts and their stops

In nested requests without a refused start, every stop answers the region of its own start, and the
stack is at the end what it was at the beginning, snapshots included. Nested or not, a region has been
entered as often as it is open and has been stopped.
-/

namespace SimdProfile

/-- A request that has been served. -/
structure Served where
  thread : ThreadId
  request : Request
  result : Except Error Answer

/-- Whether a request stopped the region with an id. -/
def Served.stops (x : Served) (id : RegionId) : Bool :=
  match x.request.operation, x.result with
  | .stop, .ok (.region (some stopped)) => stopped == id
  | _, _ => false

/-- The requests and results of a transcript nest, and every stop of the thread answers what its start
was answered. -/
inductive Paired (t : ThreadId) : List Served → Prop
  | nil : Paired t []
  | other {x : Served} {w : List Served} : x.thread ≠ t → Paired t w → Paired t (x :: w)
  | quiet {r : Request} {result : Except Error Answer} {w : List Served} :
      r.isQuiet = true → Paired t w → Paired t (⟨t, r, result⟩ :: w)
  | region {s e : Request} {id : Option RegionId} {body w : List Served} :
      s.operation = .start → Paired t body → e.operation = .stop → Paired t w →
      Paired t (⟨t, s, .ok (.region id)⟩ :: body ++ ⟨t, e, .ok (.region id)⟩ :: w)

/-- One more request, in the count of the stops of a region. The count begins anew with the profile. -/
def countStop (t : ThreadId) (id : RegionId) (n : Nat) (x : Served) : Nat :=
  if x.thread = t then
    if x.request.operation = .finish then 0 else if x.stops id then n + 1 else n
  else n

/-- The number of times that the profile a thread has now was told to stop the region with an id. -/
def stopsOf (t : ThreadId) (id : RegionId) (log : List Served) : Nat :=
  log.foldl (countStop t id) 0

section Counting

variable {t : ThreadId} {id : RegionId} {n : Nat} {r : Request} {result : Except Error Answer}

theorem stopsOf_concat (t : ThreadId) (id : RegionId) (log : List Served) (x : Served) :
    stopsOf t id (log ++ [x]) = countStop t id (stopsOf t id log) x := by
  rw [stopsOf, List.foldl_append, List.foldl_cons, List.foldl_nil, stopsOf]

theorem countStop_other {u : ThreadId} (other : u ≠ t) : countStop t id n ⟨u, r, result⟩ = n := by
  rw [countStop, if_neg other]

theorem countStop_finish (h : r.operation = .finish) : countStop t id n ⟨t, r, result⟩ = 0 := by
  rw [countStop, if_pos rfl, if_pos h]

theorem countStop_of_ne (finish : r.operation ≠ .finish) (stop : r.operation ≠ .stop) :
    countStop t id n ⟨t, r, result⟩ = n := by
  have none : Served.stops ⟨t, r, result⟩ id = false := by
    unfold Served.stops
    split
    · next h _ => exact absurd h stop
    · rfl
  rw [countStop, if_pos rfl, if_neg finish, none, if_neg Bool.false_ne_true]

theorem countStop_error (h : r.operation = .stop) (e : Error) :
    countStop t id n ⟨t, r, .error e⟩ = n := by
  simp [countStop, Served.stops, h]

theorem countStop_region (h : r.operation = .stop) (stopped : Option RegionId) :
    countStop t id n ⟨t, r, .ok (.region stopped)⟩ = n + if stopped = some id then 1 else 0 := by
  cases stopped with
  | none => simp [countStop, Served.stops, h]
  | some other =>
    by_cases same : other = id
    · simp [countStop, Served.stops, h, same]
    · simp [countStop, Served.stops, h, same]

end Counting

namespace Profiler

/-- Requests with their results. -/
def transcript (p : Profiler) : List (ThreadId × Request) → List Served
  | [] => []
  | (t, r) :: w => ⟨t, r, (p.serve t r).result⟩ :: (p.serve t r).profiler.transcript w

theorem transcript_append (p : Profiler) (v w : List (ThreadId × Request)) :
    p.transcript (v ++ w) = p.transcript v ++ (p.serveAll v).transcript w := by
  induction v generalizing p with
  | nil => rfl
  | cons x v ih =>
    obtain ⟨t, r⟩ := x
    rw [List.cons_append, transcript, transcript, ih, List.cons_append, serveAll_cons]

variable {p : Profiler} {t : ThreadId} {c : ThreadProfile} {w : List (ThreadId × Request)}

/-! ### Nested requests -/

/-- The stop that finds the frame of an entry on top answers what the entry answered, however many
regions have come since, and gives the stack before the entry back. -/
theorem serve_of_stop_of_entered {after : ThreadProfile} {id : Option RegionId} {as : List Action}
    {e : Request} (stop : e.operation = .stop) (wellFormed : c.WellFormed)
    (entered : c.Entered after id) (has : p.roster.profile? t = some (after.run as))
    (back : (after.run as).stack = after.stack) :
    (p.serve t e).result = .ok (.region id) ∧
      ∃ later, (p.serve t e).profiler.roster.profile? t = some (c.run later) ∧
        (c.run later).stack = c.stack := by
  obtain ⟨before, -, rfl⟩ := entered.run
  obtain ⟨frame, pushed, rfl⟩ := entered.stack
  have opened := back.trans pushed
  have top : frame ∈ (c.run before).stack := pushed ▸ .head _
  obtain ⟨stopped, measure, exit, line, here⟩ := p.serve_of_stop_of_cons stop has opened
  rw [(wellFormed.run before).frameId?_of_later (ThreadProfile.identities_run _ as) top] at stopped
  refine ⟨stopped, before ++ as ++ [.leave measure exit line], ?_, ?_⟩
  · rw [here, ThreadProfile.run_append, ThreadProfile.run_append]
    rfl
  · rw [ThreadProfile.run_append, ThreadProfile.run_append]
    exact ThreadProfile.stack_act_leave _ opened measure exit line

/-- Nested requests on a profile lead to a later state of it with the same stack. -/
theorem paired_of_wellNested (nested : WellNested t w) (accepted : refusals t w = 0)
    (wellFormed : c.WellFormed) (has : p.roster.profile? t = some c) :
    Paired t (p.transcript w) ∧
      ∃ as, (p.serveAll w).roster.profile? t = some (c.run as) ∧ (c.run as).stack = c.stack := by
  induction nested generalizing p c with
  | nil => exact ⟨.nil, [], has, rfl⟩
  | @other u r w other _ ih =>
    rw [refusals_other other] at accepted
    have has' : (p.serve u r).profiler.roster.profile? t = some c := by
      rw [p.profile?_serve_of_ne (Ne.symm other), has]
    obtain ⟨paired, later⟩ := ih accepted wellFormed has'
    exact ⟨.other other paired, later⟩
  | @quiet r w quiet _ ih =>
    rw [refusals_quiet quiet] at accepted
    obtain ⟨as, has', stack⟩ : ∃ as,
        (p.serve t r).profiler.roster.profile? t = some (c.run as) ∧ (c.run as).stack = c.stack := by
      rcases p.serve_of_quiet quiet t with same | ⟨c', after, enlists, rested, here⟩
      · exact ⟨[], same.trans has, rfl⟩
      · obtain rfl := enlists.eq_of_some has
        obtain ⟨as, -, rfl⟩ := rested.run
        exact ⟨as, here, rested.stack⟩
    obtain ⟨paired, as', has'', stack'⟩ := ih accepted (wellFormed.run as) has'
    refine ⟨.quiet quiet paired, as ++ as', ?_, ?_⟩
    · rw [serveAll_cons, has'', c.run_append]
    · rw [c.run_append, stack', stack]
  | @region s e body w start _ stop _ ihBody ihRest =>
    obtain ⟨taken, inside, rest⟩ := accepted_of_refusals_region stop accepted
    rcases p.serve_of_accepted start taken with
      ⟨none, -⟩ | ⟨c', after, id, enlists, entered, started, here⟩
    · cases none.symm.trans has
    · obtain rfl := enlists.eq_of_some has
      obtain ⟨as, -, rfl⟩ := entered.run
      obtain ⟨pairedBody, as₁, has₁, stack₁⟩ := ihBody inside (wellFormed.run as) here
      obtain ⟨stopped, as₂, has₂, stack₂⟩ :=
        serve_of_stop_of_entered stop wellFormed entered has₁ stack₁
      obtain ⟨pairedRest, as₃, has₃, stack₃⟩ := ihRest rest (wellFormed.run as₂) has₂
      refine ⟨?_, as₂ ++ as₃, ?_, ?_⟩
      · rw [List.cons_append, transcript, transcript_append, transcript, started, stopped]
        exact .region start pairedBody stop pairedRest
      · rw [List.cons_append, serveAll_cons, serveAll_append, serveAll_cons, has₃, c'.run_append]
      · rw [c'.run_append, stack₃, stack₂]

/-! ### All requests -/

/-- What is counted of a profile is its open frames and its stops. -/
def Tally (t : ThreadId) (log : List Served) : Option ThreadProfile → Prop
  | none => ∀ id, stopsOf t id log = 0
  | some c => ∀ id, c.entriesOf id = c.framesOf id + stopsOf t id log

/-- The requests that have been served account for all profiles. -/
def Tallies (p : Profiler) (log : List Served) : Prop :=
  ∀ t, Tally t log (p.roster.profile? t)

variable {log : List Served} {x : Served}

/-- A request that is no stop leaves the tally of a profile. -/
theorem Tally.of_stopsOf_eq {o : Option ThreadProfile} (h : Tally t log o)
    (same : ∀ id, stopsOf t id (log ++ [x]) = stopsOf t id log) : Tally t (log ++ [x]) o := by
  cases o with
  | none => exact fun id => (same id).trans (h id)
  | some c => exact fun id => (h id).trans (congrArg _ (same id).symm)

/-- The profile that a thread is enlisted with. -/
theorem Tallies.of_enlists (h : p.Tallies log) (enlists : p.roster.Enlists t c) :
    Tally t log (some c) := by
  have here := h t
  rcases enlists with has | ⟨none, d, rfl⟩
  · rwa [has] at here
  · rw [none] at here
    exact fun id => ((Nat.zero_add _).trans (here id)).symm

/-- Calls without an end keep the tally of the profile they are made on. -/
theorem Tallies.run (h : p.Tallies log) (wellFormed : p.WellFormed)
    (enlists : p.roster.Enlists t c) {as : List Action} (stays : as.all (! ·.isLeave)) :
    Tally t log (some (c.run as)) := by
  intro id
  have moved := (wellFormed.of_enlists enlists).entriesOf_run stays id
  have before := h.of_enlists enlists id
  omega

/-- A stop that ends well moves one entry from the open frames to the stops. -/
theorem Tallies.stop (h : p.Tallies log) (wellFormed : p.WellFormed) {r : Request}
    (stop : r.operation = .stop) :
    Tally t (log ++ [⟨t, r, (p.serve t r).result⟩]) ((p.serve t r).profiler.roster.profile? t) := by
  have here := h t
  cases has : p.roster.profile? t with
  | none =>
    rw [p.serve_of_stop_of_none stop has]
    refine Tally.of_stopsOf_eq here fun id => ?_
    rw [refuse, stopsOf_concat, countStop_error stop]
  | some c =>
    rw [has] at here
    cases hs : c.stack with
    | nil =>
      obtain ⟨⟨line, failed⟩, same⟩ := p.serve_of_stop_of_empty stop has hs
      rw [same, failed]
      refine Tally.of_stopsOf_eq here fun id => ?_
      rw [stopsOf_concat, countStop_error stop]
    | cons frame rest =>
      obtain ⟨stopped, measure, exit, line, left⟩ := p.serve_of_stop_of_cons stop has hs
      rw [left, stopped]
      intro id
      obtain ⟨entries, frames⟩ := (wellFormed t c has).entriesOf_leave hs measure exit line id
      have before := here id
      rw [stopsOf_concat, countStop_region stop, entries]
      omega

/-- Every request keeps the account. -/
theorem Tallies.serve (h : p.Tallies log) (wellFormed : p.WellFormed) (u : ThreadId) (r : Request) :
    (p.serve u r).profiler.Tallies (log ++ [⟨u, r, (p.serve u r).result⟩]) := by
  intro t
  by_cases own : t = u
  · subst own
    rcases r.kind_cases with refused | ⟨start, accepted⟩ | stop | finish | quiet
    · obtain ⟨e, same⟩ := p.serve_of_refused refused t
      have start := Request.operation_of_refused refused
      rw [same]
      refine Tally.of_stopsOf_eq (h t) fun id => ?_
      rw [stopsOf_concat, countStop_of_ne (by simp [start]) (by simp [start])]
    · have kept : Tally t log ((p.serve t r).profiler.roster.profile? t) := by
        rcases p.serve_of_accepted start accepted with
          ⟨none, gone⟩ | ⟨c, after, id, enlists, entered, -, here⟩
        · have before := h t
          rwa [none, ← gone] at before
        · obtain ⟨as, stays, rfl⟩ := entered.run
          rw [here]
          exact h.run wellFormed enlists stays
      refine kept.of_stopsOf_eq fun id => ?_
      rw [stopsOf_concat, countStop_of_ne (by simp [start]) (by simp [start])]
    · exact h.stop wellFormed stop
    · rw [p.profile?_serve_of_finish finish t]
      intro id
      rw [stopsOf_concat, countStop_finish finish]
    · obtain ⟨-, stop, finish⟩ := Request.operation_of_quiet quiet
      have kept : Tally t log ((p.serve t r).profiler.roster.profile? t) := by
        rcases p.serve_of_quiet quiet t with same | ⟨c, after, enlists, rested, here⟩
        · rw [same]
          exact h t
        · obtain ⟨as, stays, rfl⟩ := rested.run
          rw [here]
          exact h.run wellFormed enlists stays
      refine kept.of_stopsOf_eq fun id => ?_
      rw [stopsOf_concat, countStop_of_ne finish stop]
  · rw [p.profile?_serve_of_ne own]
    refine Tally.of_stopsOf_eq (h t) fun id => ?_
    rw [stopsOf_concat, countStop_other (Ne.symm own)]

theorem Tallies.serveAll (h : p.Tallies log) (wellFormed : p.WellFormed)
    (w : List (ThreadId × Request)) : (p.serveAll w).Tallies (log ++ p.transcript w) := by
  induction w generalizing p log with
  | nil => rwa [transcript, List.append_nil]
  | cons x w ih =>
    obtain ⟨t, r⟩ := x
    have next := ih (h.serve wellFormed t r) (wellFormed.serve t r)
    rwa [List.append_assoc] at next

/-- In nested requests every stop answers what its start was answered, and the stack comes back. Nested
or not, the entries of a region are its open frames and its stops. -/
theorem stops_pair_with_starts (s : Settings) (source : Counters.Source) (begun : Moment)
    (disk : FileTree) (before : List (ThreadId × Request)) {t : ThreadId} {c : ThreadProfile}
    (has : ((create s source begun disk).serveAll before).roster.profile? t = some c) :
    let p := (create s source begun disk).serveAll before
    (∀ w, WellNested t w → refusals t w = 0 →
      Paired t (p.transcript w) ∧
        ((p.serveAll w).roster.profile? t).map (·.stack) = some c.stack) ∧
      ∀ r ∈ c.regions,
        r.entries = c.stack.countP (fun frame => c.frameId? frame == some r.id) +
          stopsOf t r.id ((create s source begun disk).transcript before) := by
  intro p
  have wellFormed : p.WellFormed := (wellFormed_create s source begun disk).serveAll before
  have nothing : (create s source begun disk).Tallies [] := fun _ _ => rfl
  have tallies : p.Tallies ((create s source begun disk).transcript before) :=
    nothing.serveAll (wellFormed_create s source begun disk) before
  refine ⟨fun w nested accepted => ?_, fun r member => ?_⟩
  · obtain ⟨paired, as, has', stack⟩ :=
      paired_of_wellNested nested accepted (wellFormed t c has) has
    refine ⟨paired, ?_⟩
    rw [has', Option.map_some, stack]
  · obtain ⟨place, found⟩ := List.mem_iff_getElem?.mp member
    have named := (wellFormed t c has).id_eq place r found
    have counted := tallies.of_enlists (.inl has) place
    rw [ThreadProfile.entriesOf, found] at counted
    rw [named]
    exact counted

/-- A loop that has entered itself once enters itself again and calls the library. -/
theorem stops_pair_in_recursive_loop :
    let t : ThreadId := ⟨1⟩
    let enter : ThreadId × Request := (t, .direct (.start "kernel" 4 3 9 0 0xff))
    let leave : ThreadId × Request := (t, .direct (.stop 4 9))
    let before := [enter, enter, leave]
    let p := (create .default .disabled ⟨2024, 1, 2, 3, 4, 5⟩ .empty).serveAll before
    let w := [enter, (t, .direct (.start "stdlib.ispc" 32 1 2 0 0x0f)), (t, .direct (.stop 2 2)), leave]
    ∃ c, p.roster.profile? t = some c ∧ WellNested t w ∧ refusals t w = 0 ∧
      Paired t (p.transcript w) ∧
      ((p.serveAll w).roster.profile? t).map (·.stack) = some c.stack ∧
      ∀ r ∈ c.regions, r.id = 0 →
        r.entries = c.stack.countP (fun frame => c.frameId? frame == some 0) + 1 := by
  intro t enter leave before p w
  have profiled : (p.roster.profile? t).isSome := by decide
  obtain ⟨c, has⟩ := Option.isSome_iff_exists.mp profiled
  have library : WellNested t
      [(t, .direct (.start "stdlib.ispc" 32 1 2 0 0x0f)), (t, .direct (.stop 2 2))] :=
    @WellNested.region t _ _ [] [] rfl .nil rfl .nil
  have nested : WellNested t w := @WellNested.region t _ _ _ [] rfl library rfl .nil
  have accepted : refusals t w = 0 := by decide
  obtain ⟨pairing, counts⟩ :=
    stops_pair_with_starts .default .disabled ⟨2024, 1, 2, 3, 4, 5⟩ .empty before has
  obtain ⟨paired, stack⟩ := pairing w nested accepted
  refine ⟨c, has, nested, accepted, paired, stack, fun r member id => ?_⟩
  have counted := counts r member
  have once : stopsOf t 0
      ((create .default .disabled ⟨2024, 1, 2, 3, 4, 5⟩ .empty).transcript before) = 1 := by decide
  rwa [id, once] at counted

end Profiler

end SimdProfile

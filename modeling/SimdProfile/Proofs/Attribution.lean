import SimdProfile.Proofs.Profile.Observations
import SimdProfile.Proofs.Request.History

/-!
# The attribution of observations

An observation goes to one region: that of the innermost entry, if this is a recorded one and the kind of
the observation is recorded too. It adds to the tallies of its own line and to nothing else. Every other
observation leaves all profiles as they were. So what the regions of a profile have counted together is
the number of observations in its life that answered a region.
-/

namespace SimdProfile

/-- What a request observes: a line, the lanes that ran, and the code of a kind. -/
def Request.observation? (r : Request) : Option (Int32 × UInt64 × Int32) :=
  match r.read with
  | .ok (.iteration _ line mask kindCode) => some (line, mask, kindCode)
  | .ok (.branch _ line mask kindCode) => some (line, mask, kindCode)
  | _ => none

/-- Whether a turn was an observation that answered a region. -/
def Turn.observed (x : Turn) : Bool :=
  x.request.observation?.isSome && answersRegion x.reply.result

namespace Request

variable {r : Request} {line kindCode : Int32} {mask : UInt64}

/-- An observation is a call that observes, for whichever operation. -/
theorem read_observation (h : r.observation? = some (line, mask, kindCode)) :
    ∃ note, r.read = .ok (.iteration note line mask kindCode) ∨
      r.read = .ok (.branch note line mask kindCode) := by
  unfold observation? at h
  split at h
  · next note line mask kindCode read =>
    cases h
    exact ⟨note, .inl read⟩
  · next note line mask kindCode read =>
    cases h
    exact ⟨note, .inr read⟩
  · cases h

theorem answer_observation (h : r.observation? = some (line, mask, kindCode)) (terms : Terms)
    (next : Snapshot) (c : ThreadProfile) :
    r.actions terms next c = Call.observing c line mask kindCode ∧
      r.answer terms next c = Call.observed c line kindCode := by
  rw [actions, answer]
  obtain ⟨note, read | read⟩ := read_observation h <;> rw [read] <;> exact ⟨rfl, rfl⟩

/-- Nothing else than an observation observes. -/
theorem actions_of_no_observation (h : r.observation? = none) (terms : Terms) (next : Snapshot)
    (c : ThreadProfile) : (r.actions terms next c).all (! ·.isObserve) := by
  unfold actions
  cases read : r.read with
  | error e => rfl
  | ok call =>
    cases call with
    | start origin kindCode startLine endLine task mask =>
      simp only [Call.actions]
      split
      · rfl
      · split <;> rfl
    | iteration | branch => simp [observation?, read] at h
    | declare | stop | finish => rfl

end Request

namespace Profiler

variable {p : Profiler} {t : ThreadId} {r : Request} {c : ThreadProfile} {line kindCode : Int32}
  {mask : UInt64}

theorem serve_observation_of_some (observes : r.observation? = some (line, mask, kindCode))
    (has : p.roster.profile? t = some c) :
    p.Effect t (p.serve t r) (some (c.run (Call.observing c line mask kindCode)))
      (p.roster.service.draw false) (Call.observed c line kindCode) := by
  obtain ⟨note, read | read⟩ := Request.read_observation observes
  · simp only [serve, read]
    exact effect_observe has .iteration note line mask kindCode
  · simp only [serve, read]
    exact effect_observe has .branch note line mask kindCode

theorem serve_observation_of_none (observes : r.observation? = some (line, mask, kindCode))
    (has : p.roster.profile? t = none) :
    ∃ e, p.Effect t (p.serve t r) none p.roster.service (.error e) := by
  obtain ⟨note, read | read⟩ := Request.read_observation observes
  all_goals
    have begins : r.declaration? p.terms = none := by rw [Request.declaration?, read]; rfl
    have effect := serve_of_none has begins
    rw [Request.answerWithout, read] at effect
    exact ⟨_, effect⟩

/-- An observation of a kind is attended to: the thread has the profile `c`, the kind is recorded there,
and the innermost entry is one of the region at `slot`. -/
structure Attends (p : Profiler) (t : ThreadId) (kindCode : Int32) (c : ThreadProfile) (slot : Nat) :
    Prop where
  profile : p.roster.profile? t = some c
  records : ∃ kind, RegionKind.ofCode? kindCode = some kind ∧ c.records kind = true
  innermost : ∃ base rest, c.stack = .recorded slot base :: rest

theorem serve_of_attends (observes : r.observation? = some (line, mask, kindCode)) {slot : Nat}
    {region : Region} (attends : p.Attends t kindCode c slot) (found : c.regions[slot]? = some region) :
    let observed := region.observe line mask c.declaration.laneWidth.toNat
    (p.serve t r).result = .ok (.region (some region.id)) ∧
      ∀ u, (p.serve t r).profiler.roster.profile? u =
        if u = t then some { c with regions := c.regions.set slot observed }
        else p.roster.profile? u := by
  intro observed
  obtain ⟨has, ⟨kind, known, records⟩, base, rest, innermost⟩ := attends
  have effect := serve_observation_of_some observes has
  have acts : c.run (Call.observing c line mask kindCode) =
      { c with regions := c.regions.set slot observed } := by
    have changed : c.regions.modify slot (·.observe line mask c.declaration.laneWidth.toNat) =
        c.regions.set slot observed := by
      have : Inhabited Region := ⟨region⟩
      rw [List.modify_eq_set, found]
      rfl
    simp only [Call.observing, known, records, if_true, ThreadProfile.run_cons, c.act_observe, innermost,
      ThreadProfile.amendRegion, changed]
    rfl
  have answers : Call.observed c line kindCode = .ok (.region (some region.id)) := by
    have named : c.innermostId? = some region.id := by
      rw [ThreadProfile.innermostId?, innermost, List.head?_cons, Option.bind_some,
        c.frameId?_recorded, ThreadProfile.idAt?, found, Option.map_some]
    simp [Call.observed, known, records, innermost, named]
  rw [acts, answers] at effect
  exact ⟨effect.result, effect.profile?⟩

theorem serve_of_not_attends (observes : r.observation? = some (line, mask, kindCode))
    (ignored : ∀ c slot, ¬ p.Attends t kindCode c slot) :
    (∀ id, (p.serve t r).result ≠ .ok (.region (some id))) ∧
      ∀ u, (p.serve t r).profiler.roster.profile? u = p.roster.profile? u := by
  cases has : p.roster.profile? t with
  | none =>
    obtain ⟨e, effect⟩ := serve_observation_of_none observes has
    refine ⟨fun id => by rw [effect.result]; exact nofun, fun u => ?_⟩
    rw [effect.profile? u, ← has]
    exact (profile?_self t u).symm
  | some c =>
    have effect := serve_observation_of_some observes has
    suffices idle : c.run (Call.observing c line mask kindCode) = c ∧
        answersRegion (Call.observed c line kindCode) = false by
      refine ⟨fun id answered => ?_, fun u => ?_⟩
      · rw [← effect.result, answered] at idle
        exact Bool.noConfusion idle.2
      · rw [effect.profile? u, idle.1, ← has]
        exact (profile?_self t u).symm
    rcases Call.observed_cases c line mask kindCode with ⟨acts, answers⟩ | ⟨acts, answers⟩
    -- The kind is recorded, so a recorded innermost entry would have had the observation.
    · rw [acts, answers, ThreadProfile.run_cons, c.act_observe, ThreadProfile.innermostId?]
      cases opened : c.stack with
      | nil => exact ⟨rfl, rfl⟩
      | cons frame rest =>
        cases frame with
        | suppressed kind => exact ⟨rfl, rfl⟩
        | recorded slot base =>
          have recorded : ∃ kind, RegionKind.ofCode? kindCode = some kind ∧ c.records kind = true := by
            unfold Call.observing at acts
            split at acts
            · cases acts
            · next kind known =>
              split at acts
              · next records => exact ⟨kind, known, records⟩
              · cases acts
          exact absurd ⟨has, recorded, base, rest, opened⟩ (ignored c slot)
    · rw [acts]
      exact ⟨rfl, answers⟩

/-- A turn adds to the observations of the profile it was made on as many as it answered. -/
theorem observations_turn {x : Turn} (wellFormed : c.WellFormed) (made : x.On c) :
    (c.run (x.request.actions x.before.terms x.before.nextSnapshot c)).observations =
      c.observations + x.observed.toNat := by
  cases observes : x.request.observation? with
  | none =>
    rw [ThreadProfile.observations_run_of_ne (Request.actions_of_no_observation observes ..)]
    simp [Turn.observed, observes]
  | some seen =>
    obtain ⟨line, mask, kindCode⟩ := seen
    obtain ⟨actions, answer⟩ :=
      Request.answer_observation observes x.before.terms x.before.nextSnapshot c
    rw [actions, Turn.observed, observes, made.result, answer, Option.isSome_some, Bool.true_and]
    rcases Call.observed_cases c line mask kindCode with ⟨acts, answers⟩ | ⟨acts, answers⟩
    · rw [acts, answers]
      exact wellFormed.observations_observe line mask
    · rw [acts, answers]
      rfl

/-- An observation goes to the region of the innermost entry or to none, and all observations together
are those that answered a region. -/
theorem observations_go_to_the_innermost_region (s : Settings) (source : Counters.Source)
    (begun : Moment) (disk : FileTree) (before : List (ThreadId × Request)) :
    let p := (create s source begun disk).serveAll before
    (∀ t r line mask kindCode, r.observation? = some (line, mask, kindCode) →
      (∀ c slot, p.Attends t kindCode c slot →
        ∃ region observed, c.regions[slot]? = some region ∧
          (p.serve t r).result = .ok (.region (some region.id)) ∧
          region.ObservedAt observed line mask c.declaration.laneWidth.toNat ∧
          ∀ u, (p.serve t r).profiler.roster.profile? u =
            if u = t then some { c with regions := c.regions.set slot observed }
            else p.roster.profile? u) ∧
      ((∀ c slot, ¬ p.Attends t kindCode c slot) →
        (∀ id, (p.serve t r).result ≠ .ok (.region (some id))) ∧
          ∀ u, (p.serve t r).profiler.roster.profile? u = p.roster.profile? u)) ∧
      ∀ t c, p.roster.profile? t = some c →
        c.observations =
          (life t ((create s source begun disk).history before)).countP Turn.observed := by
  intro p
  have wellFormed : p.WellFormed := (wellFormed_create s source begun disk).serveAll before
  refine ⟨fun t r line mask kindCode observes => ⟨fun c slot attends => ?_, serve_of_not_attends observes⟩,
    fun t c has => ?_⟩
  · have ascending : ∀ r ∈ c.regions, r.Ascending :=
      life_induction (motive := fun _ c => ∀ r ∈ c.regions, r.Ascending) (fun _ => nofun)
        (fun _ _ _ kept _ _ _ => ThreadProfile.forall_run Region.lasting_ascending kept _)
        before attends.profile
    obtain ⟨base, rest, innermost⟩ := attends.innermost
    have below : slot < c.regions.length :=
      (wellFormed t c attends.profile).slot_lt slot base (innermost ▸ .head _)
    have found := List.getElem?_eq_getElem below
    obtain ⟨result, profiles⟩ := serve_of_attends observes attends found
    exact ⟨_, _, found, result, (ascending _ (List.getElem_mem below)).observedAt line mask _, profiles⟩
  · refine (life_induction
      (motive := fun turns c => c.WellFormed ∧ c.observations = turns.countP Turn.observed)
      (fun d => ⟨ThreadProfile.wellFormed_create t d, rfl⟩) ?_ before has).2
    rintro x c soFar ⟨wellFormed, counted⟩ made - -
    refine ⟨wellFormed.run _, ?_⟩
    rw [observations_turn wellFormed made, counted, List.countP_append, List.countP_singleton]
    cases x.observed <;> rfl

/-- A loop observes a line before, while and after it calls the library. -/
theorem observations_of_loop_that_calls_library :
    let t : ThreadId := ⟨1⟩
    let see : Request := .direct (.iteration "body" 5 0x0f 4)
    let inside := [(t, .direct (.start "kernel" 4 3 9 0 0xff)), (t, see),
      (t, .direct (.start "stdlib.ispc" 32 1 2 0 0x0f)), (t, see)]
    let outside := inside ++ [(t, .direct (.stop 32 2))]
    let p := (create .default .disabled ⟨2024, 1, 2, 3, 4, 5⟩ .empty).serveAll inside
    let q := (create .default .disabled ⟨2024, 1, 2, 3, 4, 5⟩ .empty).serveAll outside
    (∀ u, (p.serve t see).profiler.roster.profile? u = p.roster.profile? u) ∧
      ∃ c, q.Attends t 4 c 0 ∧ c.observations = 1 ∧
        ∃ region observed, c.regions[0]? = some region ∧
          (q.serve t see).result = .ok (.region (some region.id)) ∧
          region.ObservedAt observed 5 0x0f c.declaration.laneWidth.toNat := by
  intro t see inside outside p q
  have observes : see.observation? = some (5, 0x0f, 4) := rfl
  constructor
  · have hidden : (p.roster.profile? t).map (·.stack.head?) = some (some (.suppressed .function)) := by
      decide
    have ignored : ∀ c slot, ¬ p.Attends t 4 c slot := by
      rintro c slot ⟨has, -, base, rest, innermost⟩
      rw [has, Option.map_some, innermost] at hidden
      cases hidden
    obtain ⟨each, -⟩ := observations_go_to_the_innermost_region .default .disabled
      ⟨2024, 1, 2, 3, 4, 5⟩ .empty inside
    obtain ⟨-, same⟩ := (each t see 5 0x0f 4 observes).2 ignored
    simpa only [p] using same
  · have profiled : (q.roster.profile? t).isSome := by decide
    obtain ⟨c, has⟩ := Option.isSome_iff_exists.mp profiled
    have records : (q.roster.profile? t).map (·.records .loop) = some true := by decide
    have opened : (q.roster.profile? t).map (·.stack) = some [.recorded 0 (some (.ofList []))] := by
      decide
    rw [has, Option.map_some, Option.some.injEq] at records opened
    have attends : q.Attends t 4 c 0 := ⟨has, ⟨.loop, by decide, records⟩, _, [], opened⟩
    obtain ⟨each, sum⟩ := observations_go_to_the_innermost_region .default .disabled
      ⟨2024, 1, 2, 3, 4, 5⟩ .empty outside
    have once : c.observations = 1 := (sum t c has).trans (by decide)
    obtain ⟨region, observed, found, answered, adds, -⟩ := (each t see 5 0x0f 4 observes).1 c 0 attends
    exact ⟨c, attends, once, region, observed, found, answered, adds⟩

end Profiler

end SimdProfile

import SimdProfile.Proofs.Request.Effect

/-!
# The history of a profile

A turn is a request that has been served, with the profiler before and after it. The history of some
requests is the row of their turns. Of those, the life of the profile that a thread has now are the turns
of this thread since it last had none. What every turn keeps of a profile and its life holds of every
profile there is: `life_induction`.
-/

namespace SimdProfile

/-- A request that has been served. -/
structure Turn where
  thread : ThreadId
  request : Request
  before : Profiler
  reply : Reply Answer

namespace Turn

/-- The profile that its thread has after a turn. -/
def profile? (x : Turn) : Option ThreadProfile := x.reply.profiler.roster.profile? x.thread

/-- The snapshots taken in a turn. -/
def snapshots (x : Turn) : List Snapshot :=
  let before := x.before.roster.service
  (List.range' before.taken (x.reply.profiler.roster.service.taken - before.taken)).map
    before.source.snapshot

/-- A turn is made on the profile `c` of its thread: it acts on `c`, takes a snapshot if that is called
for, and is answered from `c`. -/
structure On (x : Turn) (c : ThreadProfile) : Prop where
  result : x.reply.result = x.request.answer x.before.terms x.before.nextSnapshot c
  profile? : x.profile? =
    some (c.run (x.request.actions x.before.terms x.before.nextSnapshot c))
  snapshots : x.snapshots =
    if x.request.draws x.before.terms c then [x.before.nextSnapshot] else []

end Turn

namespace Profiler

/-- The turn of a request. -/
def turn (p : Profiler) (t : ThreadId) (r : Request) : Turn := ⟨t, r, p, p.serve t r⟩

/-- The turns of some requests. -/
def history (p : Profiler) : List (ThreadId × Request) → List Turn
  | [] => []
  | (t, r) :: w => p.turn t r :: (p.serve t r).profiler.history w

variable {p : Profiler} {t : ThreadId} {r : Request} {c after : ThreadProfile}

@[simp] theorem turn_thread : (p.turn t r).thread = t := rfl

theorem snapshots_turn {service : Counters.Service} {drawn : Bool}
    {left : Option ThreadProfile} {result : Except Error Answer}
    (effect : p.Effect t (p.serve t r) left (service.draw drawn) result)
    (taken : service.taken = p.roster.service.taken) :
    (p.turn t r).snapshots = if drawn then [p.nextSnapshot] else [] := by
  have more : (p.serve t r).profiler.roster.service.taken - p.roster.service.taken = drawn.toNat := by
    rw [effect.service, ← taken]
    exact Nat.add_sub_cancel_left ..
  simp only [Turn.snapshots, turn, more]
  cases drawn <;> rfl

/-- After a turn its thread has no profile, or the turn was made on the one it has. -/
theorem turn_cases (p : Profiler) (t : ThreadId) (r : Request) :
    (p.turn t r).profile? = none ∨ ∃ c, p.roster.Enlists t c ∧ (p.turn t r).On c := by
  cases has : p.roster.profile? t with
  | some c =>
    by_cases finish : r.operation = .finish
    · exact .inl (serve_of_finish has finish).1.own
    · have effect := serve_of_some has finish
      exact .inr ⟨c, .inl has, effect.result, effect.own, snapshots_turn effect rfl⟩
  | none =>
    cases begins : r.declaration? p.terms with
    | none => exact .inl (serve_of_none has begins).own
    | some d =>
      cases programmed : p.roster.service.addUser.2.1 with
      | error e => exact .inl (serve_of_refuses has begins programmed).own
      | ok =>
        have effect := serve_of_accepts has begins programmed
        exact .inr ⟨.create t d, .inr ⟨has, d, rfl⟩, effect.result, effect.own,
          snapshots_turn effect (addUser_source p.roster.service).2⟩

end Profiler

/-- One more turn in the life of the profile of a thread. -/
def extendLife (t : ThreadId) (life : List Turn) (x : Turn) : List Turn :=
  if x.thread = t then if x.profile?.isSome then life ++ [x] else [] else life

/-- The turns that were made on the profile a thread has now, from the one that began it. -/
def life (t : ThreadId) (turns : List Turn) : List Turn := turns.foldl (extendLife t) []

section Life

variable {t : ThreadId} {motive : List Turn → ThreadProfile → Prop}

/-- A profile and its life so far. -/
def Lived (motive : List Turn → ThreadProfile → Prop) (soFar : List Turn) :
    Option ThreadProfile → Prop
  | none => soFar = []
  | some c => motive soFar c

variable {terms : Terms} (begin : ∀ d, motive [] (.create t d))
  (step : ∀ x c soFar, motive soFar c → x.On c → x.thread = t → x.before.terms = terms →
    motive (soFar ++ [x]) (c.run (x.request.actions x.before.terms x.before.nextSnapshot c)))

include begin step

theorem lived_turn {p : Profiler} (same : p.terms = terms) {soFar : List Turn}
    (lived : Lived motive soFar (p.roster.profile? t)) (u : ThreadId) (r : Request) :
    Lived motive (extendLife t soFar (p.turn u r)) ((p.serve u r).profiler.roster.profile? t) := by
  by_cases own : u = t
  · subst own
    rcases p.turn_cases u r with gone | ⟨c, enlists, made⟩
    · have gone' : (p.serve u r).profiler.roster.profile? u = none := gone
      simp only [extendLife, gone, gone']
      simp [Lived]
    · have here : (p.serve u r).profiler.roster.profile? u =
          some (c.run (r.actions p.terms p.nextSnapshot c)) := made.profile?
      have before : motive soFar c := by
        rcases enlists with has | ⟨none, d, rfl⟩
        · rwa [has] at lived
        · rw [none] at lived
          exact (show soFar = [] from lived) ▸ begin d
      simp only [extendLife, Profiler.turn_thread, made.profile?, here]
      exact step (p.turn u r) c soFar before made rfl same
  · simpa only [extendLife, Profiler.turn_thread, own, if_false,
      p.profile?_serve_of_ne (Ne.symm own)] using lived

theorem lived_history {p : Profiler} (same : p.terms = terms) {soFar : List Turn}
    (lived : Lived motive soFar (p.roster.profile? t)) (w : List (ThreadId × Request)) :
    Lived motive ((p.history w).foldl (extendLife t) soFar) ((p.serveAll w).roster.profile? t) := by
  induction w generalizing p soFar with
  | nil => exact lived
  | cons x w ih =>
    exact ih ((p.terms_serve x.1 x.2).1.trans same) (lived_turn begin step same lived x.1 x.2)

omit begin step in
/-- What holds of a new profile and is kept by every turn made on it, holds of every profile and its
life. -/
theorem life_induction {s : Settings} {source : Counters.Source} {begun : Moment} {disk : FileTree}
    (begin : ∀ d, motive [] (.create t d))
    (step : ∀ x c soFar, motive soFar c → x.On c → x.thread = t →
      x.before.terms = (Profiler.create s source begun disk).terms →
      motive (soFar ++ [x]) (c.run (x.request.actions x.before.terms x.before.nextSnapshot c)))
    (w : List (ThreadId × Request)) {c : ThreadProfile}
    (has : ((Profiler.create s source begun disk).serveAll w).roster.profile? t = some c) :
    motive (life t ((Profiler.create s source begun disk).history w)) c := by
  have lived := lived_history (p := .create s source begun disk) begin step rfl rfl w
  rwa [has] at lived

end Life

end SimdProfile

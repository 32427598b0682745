import SimdProfile.Proofs.Roster.Sections

/-!
# One profile for each thread

Two callers that are given a profile of one thread are given the same one, unless the thread is dismissed
in between, and then they never are. The declaration of a profile is that of the caller whose claim began
it, whatever others bring. A badge stays as it is until its thread is dismissed, and no thread has the
handle of another or one that was dismissed.
-/

namespace SimdProfile

namespace Roster

namespace Shared

variable {s : Shared} {x : Section} {t u : ThreadId} {b : Badge} {h k : Handle}

/-- A claim begins the profile of a thread that has none: it is empty, and has the declaration that the
caller of the claim has brought. -/
structure Begins (s : Shared) (who : Caller) (t : ThreadId) (h : Handle) (d : Declaration) : Prop where
  claiming : s.claiming who = some (t, d)
  vacant : s.roster.cell? t = none
  cell : (s.step (.claim who)).1.roster.cell? t = some ⟨h, .create t d⟩

theorem badge?_dismiss (s : Shared) (t : ThreadId) :
    (s.step (.dismiss t)).1.roster.badge? t = none := by
  have gone : (s.step (.dismiss t)).1.roster.cell? t = none :=
    s.roster.cell?_dismiss.trans (if_pos rfl)
  rw [badge?, gone, Option.map_none]

/-- What a section does to the badge of one thread: it stays, or is begun by a claim, or ends with the
dismissal of the thread. -/
theorem badge?_step (s : Shared) (x : Section) (t : ThreadId) :
    (s.step x).1.roster.badge? t = s.roster.badge? t ∧ x ≠ .dismiss t ∨
      (∃ who d, x = .claim who ∧ s.Begins who t s.roster.nextHandle d ∧
        (s.step x).1.roster.nextHandle = s.roster.nextHandle + 1) ∨
      x = .dismiss t ∧ (s.step x).1.roster.badge? t = none := by
  by_cases dismisses : x = .dismiss t
  · refine .inr (.inr ⟨dismisses, ?_⟩)
    rw [dismisses, s.badge?_dismiss]
  · cases s.course x with
    | keeps service next badges | refuses who u d e claims claiming vacant outcome service next badges =>
      exact .inl ⟨by rw [badge?_eq_lookup, badge?_eq_lookup, badges], dismisses⟩
    | begins who u d claims claiming vacant outcome service next cells =>
      by_cases own : t = u
      · subst own claims
        refine .inr (.inl ⟨who, d, rfl, ⟨claiming, Option.map_eq_none_iff.mp vacant, ?_⟩, next⟩)
        rw [cell?, cells, List.lookup_cons_self]
      · refine .inl ⟨?_, dismisses⟩
        rw [badge?, cell?, cells, lookup_cell, if_neg own, badge?, cell?]
    | ends u ended member service next cells =>
      have other : t ≠ u := fun same => dismisses (same ▸ ended)
      refine .inl ⟨?_, dismisses⟩
      rw [badge?, cell?, cells, lookup_filter, if_neg other, badge?, cell?]

theorem Begins.badge? {who : Caller} {d : Declaration} (begun : s.Begins who t h d) :
    (s.step (.claim who)).1.roster.badge? t = some ⟨h, d⟩ := by
  rw [Roster.badge?, begun.cell]
  rfl

theorem nextHandle_step (s : Shared) (x : Section) :
    s.roster.nextHandle ≤ (s.step x).1.roster.nextHandle := by
  cases s.course x with
  | keeps service next badges => exact Nat.le_of_eq next.symm
  | refuses who t d e claims claiming vacant outcome service next badges => exact Nat.le_of_eq next.symm
  | begins who t d claims claiming vacant outcome service next cells =>
    rw [next]
    exact Nat.le_succ _
  | ends t dismisses member service next cells => exact Nat.le_of_eq next.symm

/-- What is given out where a look-up finds a handle is that handle. -/
theorem handle?_of_found {otherwise : Shared × Outcome} (absent : otherwise.2.given? = none)
    (gives : (match s.roster.handle? u with
      | some handle => s.give u handle
      | none => otherwise).2.given? = some (t, h)) :
    (match s.roster.handle? u with
      | some handle => s.give u handle
      | none => otherwise).1.roster.handle? t = some h := by
  cases known : s.roster.handle? u with
  | none =>
    rw [known] at gives
    cases absent.symm.trans gives
  | some handle =>
    rw [known] at gives
    cases gives
    exact known

/-- A profile that is given out is that of its thread. -/
theorem handle?_of_gives (gives : s.gives x = some (t, h)) :
    (s.step x).1.roster.handle? t = some h := by
  unfold Shared.gives at gives
  cases x with
  | seek who u d =>
    simp only [step] at gives ⊢
    split at gives
    · cases gives
    · next free =>
      split at gives
      · cases gives
      · next foreign =>
        rw [if_neg free, if_neg foreign]
        exact handle?_of_found rfl gives
  | get u => exact handle?_of_found rfl gives
  | claim who =>
    cases claiming : s.claiming who with
    | none =>
      simp only [step, claiming] at gives
      cases gives
    | some claim =>
      obtain ⟨u, d⟩ := claim
      cases known : s.roster.handle? u with
      | some handle =>
        simp only [step, claiming, Roster.claim, known] at gives ⊢
        cases gives
        exact known
      | none =>
        cases outcome : s.roster.service.addUser.2.1 with
        | error e =>
          simp only [step, claiming, Roster.claim, known, outcome] at gives
          cases gives
        | ok =>
          simp only [step, claiming, Roster.claim, known, outcome] at gives ⊢
          cases gives
          simp only [Shared.give, hold, handle?, cell?, List.lookup_cons_self, Option.map_some]
  | dismiss u =>
    cases found : (s.roster.dismiss u).2.1 <;> simp [step, found, Outcome.given?] at gives
  | work handle a | letGo handle => cases gives

theorem badge?_of_gives (gives : s.gives x = some (t, h)) :
    ∃ b, (s.step x).1.roster.badge? t = some b ∧ b.handle = h := by
  have known := handle?_of_gives gives
  rwa [handle?_eq, Option.map_eq_some_iff] at known

/-- What gives a profile out does not dismiss its thread. -/
theorem ne_dismiss_of_gives (gives : s.gives x = some (t, h)) : x ≠ .dismiss t := by
  rintro rfl
  obtain ⟨b, has, -⟩ := badge?_of_gives gives
  rw [badge?_dismiss] at has
  cases has

end Shared

/-! ### Handles -/

/-- A handle that has been given out once, and is that of certain threads only. -/
structure Confined (r : Roster) (h : Handle) (whose : ThreadId → Prop) : Prop where
  used : h < r.nextHandle
  whose : ∀ u b, r.badge? u = some b → b.handle = h → whose u

/-- No two threads have one handle, and no handle is given out before its turn. -/
def Orderly (r : Roster) : Prop :=
  ∀ t b, r.badge? t = some b → r.Confined b.handle (· = t)

namespace Shared

variable {s : Shared} {x : Section} {t u : ThreadId} {b : Badge} {h k : Handle} {whose : ThreadId → Prop}
  {w : List Section}

/-- A handle never goes to another thread. -/
theorem confined_step (c : s.roster.Confined h whose) (x : Section) :
    (s.step x).1.roster.Confined h whose where
  used := Nat.lt_of_lt_of_le c.used (s.nextHandle_step x)
  whose u b has same := by
    rcases s.badge?_step x u with ⟨kept, -⟩ | ⟨who, d, rfl, begun, -⟩ | ⟨-, gone⟩
    · exact c.whose u b (kept ▸ has) same
    · rw [begun.badge?] at has
      cases has
      exact absurd same (Nat.ne_of_gt c.used)
    · rw [gone] at has
      cases has

theorem confined_run (c : s.roster.Confined h whose) (w : List Section) :
    (s.run w).roster.Confined h whose :=
  run_induction (motive := fun s => s.roster.Confined h whose) (fun _ x _ c => confined_step c x) c

/-- Once a thread is dismissed, its handle is that of no thread. -/
theorem confined_dismissed (c : s.roster.Confined h (· = t)) (dismissed : .dismiss t ∈ w) :
    (s.run w).roster.Confined h (fun _ => False) := by
  obtain ⟨before, after, rfl⟩ := List.append_of_mem dismissed
  rw [run_append, run_cons]
  refine confined_run ⟨(confined_step (confined_run c before) _).used, fun u b has same => ?_⟩ after
  obtain rfl : u = t := (confined_step (confined_run c before) _).whose u b has same
  rw [badge?_dismiss] at has
  cases has

theorem orderly_step (o : s.roster.Orderly) (x : Section) : (s.step x).1.roster.Orderly := by
  intro t b has
  rcases s.badge?_step x t with ⟨kept, -⟩ | ⟨who, d, rfl, begun, next⟩ | ⟨-, gone⟩
  · exact confined_step (o t b (kept ▸ has)) x
  · rw [begun.badge?] at has
    cases has
    refine ⟨next ▸ Nat.lt_succ_self _, fun u b hasU same => ?_⟩
    -- Any other thread had its badge before, with a handle that was given out by then.
    rcases s.badge?_step (.claim who) u with ⟨kept, -⟩ | ⟨who', d', claims, begunU, -⟩ | ⟨claims, -⟩
    · exact absurd same (Nat.ne_of_lt (o u b (kept ▸ hasU)).used)
    · cases claims
      have claim := begun.claiming.symm.trans begunU.claiming
      cases claim
      rfl
    · cases claims
  · rw [gone] at has
    cases has

theorem orderly_run (o : s.roster.Orderly) (w : List Section) : (s.run w).roster.Orderly :=
  run_induction (motive := fun s => s.roster.Orderly) (fun _ x _ o => orderly_step o x) o

/-- A profile that is given out is confined to its thread. -/
theorem confined_of_gives (o : s.roster.Orderly) (gives : s.gives x = some (t, h)) :
    (s.step x).1.roster.Confined h (· = t) := by
  obtain ⟨b, has, rfl⟩ := badge?_of_gives gives
  exact orderly_step o x t b has

/-- A badge stays until its thread is dismissed. -/
theorem badge?_run (has : s.roster.badge? t = some b) (stays : .dismiss t ∉ w) :
    (s.run w).roster.badge? t = some b := by
  refine run_induction (motive := fun s => s.roster.badge? t = some b) (fun s x member has => ?_) has
  rcases s.badge?_step x t with ⟨kept, -⟩ | ⟨who, d, rfl, begun, -⟩ | ⟨rfl, -⟩
  · rw [kept, has]
  · rw [Roster.badge?, begun.vacant] at has
    cases has
  · exact absurd member stays

/-- A badge was there from the start, or it was begun by a claim; its thread has not been dismissed
since. -/
theorem badge?_run_cases (w : List Section) (has : (s.run w).roster.badge? t = some b) :
    s.roster.badge? t = some b ∧ .dismiss t ∉ w ∨
      ∃ before who after, w = before ++ .claim who :: after ∧ .dismiss t ∉ after ∧
        (s.run before).Begins who t b.handle b.declaration := by
  induction w generalizing s with
  | nil => exact .inl ⟨has, List.not_mem_nil⟩
  | cons x w ih =>
    rcases ih has with ⟨has, stays⟩ | ⟨before, who, after, rfl, stays, begun⟩
    · rcases s.badge?_step x t with ⟨kept, other⟩ | ⟨who, d, rfl, begun, -⟩ | ⟨-, gone⟩
      · refine .inl ⟨kept ▸ has, fun member => ?_⟩
        rcases List.mem_cons.mp member with same | later
        · exact other same.symm
        · exact stays later
      · rw [begun.badge?] at has
        cases has
        exact .inr ⟨[], who, w, rfl, stays, begun⟩
      · rw [gone] at has
        cases has
    · exact .inr ⟨x :: before, who, after, rfl, stays, begun⟩

end Shared

/-- A badge is that of a cell. -/
theorem exists_cell {r : Roster} {t : ThreadId} {b : Badge} (has : r.badge? t = some b) :
    ∃ c, r.cell? t = some ⟨b.handle, c⟩ ∧ c.declaration = b.declaration := by
  obtain ⟨cell, found, rfl⟩ := Option.map_eq_some_iff.mp has
  exact ⟨cell.profile, found, rfl⟩

/-- Whatever sections the callers run in whatever order:

* a profile is never replaced: what a thread has keeps its handle and declaration until the thread is
  dismissed;
* two sections give out one profile if and only if they do so for one thread that is not dismissed in
  between;
* what is given out was begun empty by a claim, with the declaration that its caller brought and that it
  still has, and since the last dismissal of the thread. -/
theorem one_profile_per_thread (libraryOrigin : String) (source : Counters.Source) :
    let start := Shared.create libraryOrigin source
    (∀ w x t cell, (start.run w).roster.cell? t = some cell → x ≠ .dismiss t →
      ∃ c, (start.run (w ++ [x])).roster.cell? t = some ⟨cell.handle, c⟩ ∧
        c.declaration = cell.profile.declaration) ∧
    (∀ w x between y t u h k, (start.run w).gives x = some (t, h) →
      (start.run (w ++ x :: between)).gives y = some (u, k) →
      (h = k ↔ t = u ∧ .dismiss t ∉ between)) ∧
    ∀ w x t h, (start.run w).gives x = some (t, h) →
      ∃ before who after d, w ++ [x] = before ++ .claim who :: after ∧ .dismiss t ∉ after ∧
        (start.run before).Begins who t h d ∧
        ∃ c, (start.run (w ++ [x])).roster.cell? t = some ⟨h, c⟩ ∧ c.declaration = d := by
  intro start
  have orderly : start.roster.Orderly := fun t b has => by cases has
  refine ⟨fun w x t cell found other => ?_, fun w x between y t u h k first second => ?_,
    fun w x t h given => ?_⟩
  · have has : (start.run w).roster.badge? t = some cell.badge := by rw [badge?, found, Option.map_some]
    rw [Shared.run_append]
    exact exists_cell (Shared.badge?_run has (by simpa using other.symm))
  · rw [Shared.run_append, Shared.run_cons] at second
    have confined := Shared.confined_of_gives (Shared.orderly_run orderly w) first
    obtain ⟨b, hasT, rfl⟩ := Shared.badge?_of_gives first
    obtain ⟨b', hasU, rfl⟩ := Shared.badge?_of_gives second
    constructor
    · intro same
      refine ⟨?_, fun dismissed => ?_⟩
      · exact ((Shared.confined_step (Shared.confined_run confined between) y).whose u b' hasU
          same.symm).symm
      · exact (Shared.confined_step (Shared.confined_dismissed confined dismissed) y).whose u b' hasU
          same.symm
    · rintro ⟨rfl, stays⟩
      have other : .dismiss t ∉ [y] := by simpa using (Shared.ne_dismiss_of_gives second).symm
      have kept := Shared.badge?_run (Shared.badge?_run hasT stays) other
      rw [show b = b' from Option.some.inj (kept.symm.trans hasU)]
  · obtain ⟨b, has, rfl⟩ := Shared.badge?_of_gives given
    have has : (start.run (w ++ [x])).roster.badge? t = some b := by
      rw [Shared.run_append]
      exact has
    rcases Shared.badge?_run_cases _ has with ⟨before, -⟩ | ⟨before, who, after, split, stays, begun⟩
    · cases before
    · exact ⟨before, who, after, b.declaration, split, stays, begun, exists_cell has⟩

/-- Two callers find that a thread has no profile. The second is the first to claim it, so both are given
the profile with its declaration. The thread is dismissed, and enlisted again by the first caller. -/
theorem one_profile_of_two_claims :
    let c : Declaration := ⟨"kernel.ispc", 1, 8, .ofWord 0x3e⟩
    let d : Declaration := ⟨"kernel.ispc", 7, 4, .ofWord 0x3e⟩
    let t : ThreadId := ⟨1⟩
    let start := Shared.create "stdlib.ispc" .disabled
    let w : List Section := [.seek 0 t c, .seek 1 t d]
    let between : List Section := [.claim 0, .dismiss t, .seek 0 t c]
    ((start.run w).gives (.claim 1) = some (t, 0) ∧
      (start.run (w ++ [.claim 1])).gives (.claim 0) = some (t, 0) ∧
      (start.run (w ++ .claim 1 :: between)).gives (.claim 0) = some (t, 1)) ∧
    (0 = 1 ↔ t = t ∧ .dismiss t ∉ between) ∧
    ∃ before who after e, w ++ [.claim 1] = before ++ .claim who :: after ∧ .dismiss t ∉ after ∧
      (start.run before).Begins who t 0 e ∧
      ∃ p, (start.run (w ++ [.claim 1])).roster.cell? t = some ⟨0, p⟩ ∧ p.declaration = e := by
  intro c d t start w between
  have ⟨_, same, begun⟩ := one_profile_per_thread "stdlib.ispc" .disabled
  have first : (start.run w).gives (.claim 1) = some (t, 0) := by decide +kernel
  have second : (start.run (w ++ .claim 1 :: between)).gives (.claim 0) = some (t, 1) := by
    decide +kernel
  exact ⟨⟨first, by decide +kernel, second⟩, same w _ between _ t t 0 1 first second,
    begun w _ t 0 first⟩

end Roster

end SimdProfile

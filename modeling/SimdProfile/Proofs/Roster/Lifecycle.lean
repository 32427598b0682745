import SimdProfile.Proofs.Roster.Sections

/-!
# The life of the counters

The users of the counters are the profiles of the roster, however the sections of its callers come one
after the other: the counters are programmed as long as there is a profile, attempts to program them are
made while there is none, and they are released with the last one.
-/

namespace SimdProfile

namespace Counters.Service

/-- A new user has the counters programmed if it is the first, which the source may refuse. -/
inductive Admits (s : Service) : Prop where
  | refuses (first : s.users = 0) (e : Error) (outcome : s.addUser.2.1 = .error e)
      (after : s.addUser.1 = { s with attempts := s.attempts + 1 })
  | programs (first : s.users = 0) (outcome : s.addUser.2.1 = .ok ())
      (after : s.addUser.1 =
        { s with attempts := s.attempts + 1, programmed := s.programmed + 1, users := 1 })
  | joins (first : s.users ≠ 0) (outcome : s.addUser.2.1 = .ok ())
      (after : s.addUser.1 = { s with users := s.users + 1 })

theorem admits (s : Service) : s.Admits := by
  by_cases first : s.users = 0
  · cases failure : s.source.failure? s.attempts with
    | some e =>
      exact .refuses first (programmingError e) (by simp [addUser, first, failure])
        (by simp [addUser, first, failure])
    | none =>
      exact .programs first (by simp [addUser, first, failure]) (by simp [addUser, first, failure])
  · exact .joins first (by simp [addUser, first]) (by simp [addUser, first])

/-- The last user releases the counters. -/
theorem dropUser_eq {s : Service} {n : Nat} (users : s.users = n + 1) :
    s.dropUser.1 = { s with users := n, released := s.released + if n = 0 then 1 else 0 } := by
  cases n with
  | zero => simp [dropUser, users]
  | succ n => simp [dropUser, users]

end Counters.Service

namespace Roster

variable {r after : Roster} {t : ThreadId}

/-- The counters are used by the profiles, of which there is one for each thread at most, and they are
programmed if there is one. -/
structure Attended (r : Roster) : Prop where
  distinct : r.threads.Nodup
  users : r.service.users = r.size
  programmed : r.service.programmed = r.service.released + if r.size = 0 then 0 else 1

/-- With the same badges there are the same threads. -/
theorem threads_of_badges (same : after.badges = r.badges) :
    after.threads = r.threads ∧ after.size = r.size := by
  rw [size_eq, size_eq, threads_eq, threads_eq, same]
  exact ⟨rfl, rfl⟩

/-- A thread without a badge is not among the threads. -/
theorem not_mem_threads (vacant : r.badge? t = none) : t ∉ r.threads := by
  rw [badge?, cell?, Option.map_eq_none_iff, List.lookup_eq_none_iff] at vacant
  rw [threads, List.mem_map]
  rintro ⟨entry, member, rfl⟩
  simpa using vacant entry member

/-- To take a thread away from threads that are all different leaves one less. -/
theorem threads_filter (distinct : r.threads.Nodup)
    (member : t ∈ r.threads) (same : after.cells = r.cells.filter (·.1 ≠ t)) :
    after.threads = r.threads.erase t ∧ after.size + 1 = r.size := by
  have threads : after.threads = r.threads.erase t := by
    rw [distinct.erase_eq_filter, Roster.threads, same, Roster.threads, List.filter_map]
    congr 2
    funext entry
    simp [bne, Bool.beq_eq_decide_eq]
  refine ⟨threads, ?_⟩
  have some : 0 < r.threads.length := List.length_pos_of_mem member
  rw [size_eq, size_eq, threads, List.length_erase_of_mem member]
  omega

theorem attended_create (libraryOrigin : String) (source : Counters.Source) :
    (create libraryOrigin source).Attended :=
  ⟨.nil, rfl, rfl⟩

/-- How often a section has the counters programmed, or tries to, and how often it releases them. -/
structure Tended (r after : Roster) (x : Section) : Prop where
  attempts : after.service.attempts = r.service.attempts ∨
    after.service.attempts = r.service.attempts + 1 ∧ r.size = 0 ∧ ∃ who, x = .claim who
  released : after.service.released = r.service.released ∨
    after.service.released = r.service.released + 1 ∧ r.size = 1 ∧ after.size = 0 ∧ ∃ t, x = .dismiss t

/-- Every section leaves the counters attended, and tends to them at the right moment only. -/
theorem Attended.step {s : Shared} (h : s.roster.Attended) (x : Section) :
    (s.step x).1.roster.Attended ∧ Tended s.roster (s.step x).1.roster x := by
  have users := h.users
  have programmed := h.programmed
  cases s.course x with
  | keeps service next badges =>
    obtain ⟨threads, size⟩ := threads_of_badges badges
    refine ⟨⟨threads ▸ h.distinct, ?_, ?_⟩, ⟨.inl (by rw [service]), .inl (by rw [service])⟩⟩
    · rw [service, size, users]
    · rw [service, size, programmed]
  | refuses who t d e claims claiming vacant outcome service next badges =>
    obtain ⟨threads, size⟩ := threads_of_badges badges
    cases s.roster.service.admits with
    | refuses first e outcome after =>
      rw [after] at service
      refine ⟨⟨threads ▸ h.distinct, ?_, ?_⟩, ⟨.inr ⟨?_, ?_, who, claims⟩, .inl ?_⟩⟩
      · rw [service, size, ← users]
      · rw [service, size, ← programmed]
      · rw [service]
      · rw [← users, first]
      · rw [service]
    | programs first accepted after | joins first accepted after =>
      rw [outcome] at accepted
      cases accepted
  | begins who t d claims claiming vacant outcome service next cells =>
    have threads : (s.step x).1.roster.threads = t :: s.roster.threads := by
      rw [Roster.threads, cells, List.map_cons, ← Roster.threads]
    have size : (s.step x).1.roster.size = s.roster.size + 1 := by
      rw [size_eq, threads, List.length_cons, ← size_eq]
    have distinct : (s.step x).1.roster.threads.Nodup :=
      threads ▸ List.nodup_cons.mpr ⟨not_mem_threads vacant, h.distinct⟩
    cases s.roster.service.admits with
    | refuses first e refused after =>
      rw [outcome] at refused
      cases refused
    | programs first accepted after =>
      rw [after] at service
      rw [users] at first
      rw [if_pos first] at programmed
      refine ⟨⟨distinct, ?_, ?_⟩, ⟨.inr ⟨?_, first, who, claims⟩, .inl ?_⟩⟩
      · rw [service, size, first]
      · rw [service, size, programmed]
        rfl
      · rw [service]
      · rw [service]
    | joins first accepted after =>
      rw [after] at service
      rw [users] at first
      rw [if_neg first] at programmed
      refine ⟨⟨distinct, ?_, ?_⟩, ⟨.inl ?_, .inl ?_⟩⟩
      · rw [service, size, users]
      · rw [service, size, programmed]
        rfl
      · rw [service]
      · rw [service]
  | ends t dismisses member service next cells =>
    obtain ⟨threads, size⟩ := threads_filter h.distinct member cells
    have dropped := Counters.Service.dropUser_eq (users.trans size.symm)
    rw [dropped] at service
    rw [← size, if_neg (Nat.succ_ne_zero _)] at programmed
    refine ⟨⟨threads ▸ h.distinct.erase t, ?_, ?_⟩, ⟨.inl ?_, ?_⟩⟩
    · rw [service]
    · rw [service, programmed]
      split <;> rfl
    · rw [service]
    · by_cases last : (s.step x).1.roster.size = 0
      · exact .inr ⟨by rw [service, if_pos last], by omega, last, t, dismisses⟩
      · exact .inl (by rw [service, if_neg last, Nat.add_zero])

theorem Attended.run {s : Shared} (h : s.roster.Attended) (w : List Section) :
    (s.run w).roster.Attended :=
  Shared.run_induction (motive := fun s => s.roster.Attended) (fun _ x _ h => (h.step x).1) h

/-- Whatever sections the callers have run in whatever order, and whichever attempts to program the
counters have failed: there are as many users as profiles, the counters are programmed if and only if there
is a profile, an attempt to program them is made only while there is none, and they are released only by
the dismissal of the last. -/
theorem counters_follow_the_roster (libraryOrigin : String) (source : Counters.Source)
    (w : List Section) :
    let s := (Shared.create libraryOrigin source).run w
    let r := s.roster
    r.service.users = r.size ∧
      r.service.programmed = r.service.released + (if r.size = 0 then 0 else 1) ∧
      ∀ x : Section, let after := (s.step x).1.roster
        (after.service.attempts ≠ r.service.attempts →
          after.service.attempts = r.service.attempts + 1 ∧ r.size = 0 ∧ ∃ who, x = .claim who) ∧
        (after.service.released ≠ r.service.released →
          after.service.released = r.service.released + 1 ∧ r.size = 1 ∧ after.size = 0 ∧
            ∃ t, x = .dismiss t) := by
  intro s r
  have attended : r.Attended := (attended_create libraryOrigin source).run (s := .create _ _) w
  refine ⟨attended.users, attended.programmed, fun x => ?_⟩
  have tended := (attended.step x).2
  exact ⟨tended.attempts.resolve_left, tended.released.resolve_left⟩

/-- Two callers begin to enlist one thread, the counters refuse the first claim and accept the second, a
third caller enlists another thread, and both threads are dismissed, the first of them twice. -/
theorem counters_follow_two_claims_of_one_thread :
    let busy : Counters.Source :=
      .recorded [] (some (.counterProgramming "busy")) (some 1)
    let d : Declaration := ⟨"kernel.ispc", 1, 8, .ofWord 0x3e⟩
    let t : ThreadId := ⟨1⟩
    let u : ThreadId := ⟨2⟩
    let w : List Section := [.seek 0 t d, .seek 1 t d, .claim 0, .claim 1, .seek 2 u d, .claim 2,
      .dismiss t, .dismiss t]
    let s := (Shared.create "stdlib.ispc" busy).run w
    let after := (s.step (.dismiss u)).1.roster
    (s.roster.service.users = 1 ∧ s.roster.service.attempts = 2 ∧ s.roster.service.programmed = 1) ∧
      s.roster.service.users = s.roster.size ∧ after.service.released ≠ s.roster.service.released ∧
      after.service.released = s.roster.service.released + 1 ∧ after.size = 0 := by
  intro busy d t u w
  have follows := counters_follow_the_roster "stdlib.ispc" busy w
  have last := (follows.2.2 (.dismiss u)).2 (by decide +kernel)
  exact ⟨by decide +kernel, follows.1, by decide +kernel, last.1, last.2.2.1⟩

end Roster

end SimdProfile

import SimdProfile.Proofs.Profile.Samples
import SimdProfile.Proofs.Roster.Handover

/-!
# What is left behind

Where a profile is taken out of a handle that is held, an empty one stays for the holders. What they do
from then on is done on this stray (`Leaves.run`), for as long as there are holders, and no profile ever
comes to the handle again. No move needs to know of the stray: if it is forgotten, and so is the work on
it, then everything else goes on as it did, and is answered the same (`Departed.forget_run`).
-/

namespace SimdProfile

namespace ThreadProfile

theorem owner_act (p : ThreadProfile) (a : Action) : (p.act a).owner = p.owner := by
  cases a with
  | enter kind startLine endLine mask snapshot =>
    rcases p.enter_cases kind startLine endLine mask snapshot with
      ⟨-, entered⟩ | ⟨-, slot, -, entered⟩ | ⟨-, -, entered⟩
    · rw [act, entered]
      rfl
    · rw [act, entered]
      rfl
    · rw [act, entered]
  | suppress kind => rfl
  | leave measure exit line =>
    rw [act_leave]
    split <;> rfl
  | observe line mask =>
    rw [act_observe]
    split <;> rfl
  | declareTask task => rfl

theorem owner_run (p : ThreadProfile) (as : List Action) : (p.run as).owner = p.owner :=
  run_induction (motive := fun q => q.owner = p.owner) (fun q a same => (q.owner_act a).trans same) rfl as

/-- Whatever was done on a profile, an empty one of its thread and program is as at the beginning. -/
theorem fresh_run (owner : ThreadId) (d : Declaration) (as : List Action) :
    ((create owner d).run as).fresh = create owner d := by
  rw [fresh, owner_run, declaration_run]
  rfl

end ThreadProfile

namespace Roster

namespace Handover

variable {s : Handover} {h : Handle} {entry : ThreadId × Cell}

/-- The work that was done on a handle in a row of moves. -/
def worked (h : Handle) (w : List Move) : List Action := w.filterMap (Move.work? h)

theorem worked_concat (h : Handle) (w : List Move) (x : Move) :
    worked h (w ++ [x]) = worked h w ++ (x.work? h).toList := by
  rw [worked, List.filterMap_append]
  cases done : x.work? h <;> simp [worked, done]

theorem worked_cons (h : Handle) (x : Move) (w : List Move) :
    worked h (x :: w) = (x.work? h).toList ++ worked h w := by
  rw [worked, List.filterMap_cons]
  cases x.work? h <;> rfl

/-- A resident was one before, and the work of the move has been done on it, or it was begun. -/
theorem Tidy.resident_step (tidy : s.Tidy) (x : Move) (member : entry ∈ (s.step x).1.residents) :
    (∃ p, (entry.1, (⟨entry.2.handle, p⟩ : Cell)) ∈ s.residents ∧
      entry.2.profile = p.run (x.work? entry.2.handle).toList) ∨
    ∃ who d, x = .whole (.claim who) ∧ s.shared.Begins who entry.1 entry.2.handle d ∧
      entry.2.handle = s.next ∧ entry.2.profile = .create entry.1 d := by
  cases tidy.course x with
  | keeps quiet stays residents strays next held =>
    rw [quiet]
    exact .inl ⟨entry.2.profile, residents.subset member, rfl⟩
  | drops k letting residents strays next held =>
    subst letting
    exact .inl ⟨entry.2.profile, residents ▸ member, rfl⟩
  | begins who t d claims begun residents strays next held =>
    subst claims
    rw [residents] at member
    rcases List.mem_cons.mp member with rfl | old
    · exact .inr ⟨who, d, rfl, begun, rfl, rfl⟩
    · exact .inl ⟨entry.2.profile, old, rfl⟩
  | works k a working residents strays next held =>
    subst working
    rw [residents] at member
    obtain ⟨old, before, rfl⟩ := List.mem_map.mp member
    refine .inl ⟨old.2.profile, ?_⟩
    by_cases own : old.2.handle = k
    · subst own
      have worked : (Section.work old.2.handle a).onEntry old =
          (old.1, ⟨old.2.handle, old.2.profile.act a⟩) := if_pos rfl
      have done : Move.work? old.2.handle (.whole (.work old.2.handle a)) = some a := if_pos rfl
      rw [worked, done]
      exact ⟨before, rfl⟩
    · have same : (Section.work k a).onEntry old = old := if_neg own
      have quiet : Move.work? old.2.handle (.whole (.work k a)) = none := if_neg (Ne.symm own)
      rw [same, quiet]
      exact ⟨before, rfl⟩
  | parts gone parting quiet answer residents strays next held =>
    rw [quiet]
    exact .inl ⟨entry.2.profile, residents.symm.subset (.tail _ member), rfl⟩

/-- A handle whose profile has been taken out. -/
structure Departed (s : Handover) (h : Handle) : Prop where
  absent : h ∉ s.residents.map (·.2.handle)
  used : h < s.next

theorem Departed.ne (gone : s.Departed h) (member : entry ∈ s.residents) : h ≠ entry.2.handle :=
  fun same => gone.absent (same ▸ List.mem_map_of_mem member)

/-- No profile ever comes to a handle again. -/
theorem Departed.step (gone : s.Departed h) (tidy : s.Tidy) (x : Move) : (s.step x).1.Departed h where
  absent := by
    intro back
    obtain ⟨entry, member, rfl⟩ := List.mem_map.mp back
    rcases tidy.resident_step x member with ⟨p, old, -⟩ | ⟨who, d, -, -, next, -⟩
    · exact gone.ne old rfl
    · exact absurd next (Nat.ne_of_lt gone.used)
  used := by
    rcases tidy.handles_step x with ⟨-, next⟩ | ⟨-, next⟩
    · exact next ▸ gone.used
    · exact next ▸ Nat.lt_succ_of_lt gone.used

theorem lookup_onStray (k : Handle) (a : Action) (l : List (Handle × ThreadProfile)) (h : Handle) :
    (l.map (Section.work k a).onStray).lookup h =
      (l.lookup h).map fun p => p.run (Move.work? h (.whole (.work k a))).toList := by
  induction l with
  | nil => rfl
  | cons stray l ih =>
    rw [List.map_cons, List.lookup_cons, handle_onStray, List.lookup_cons]
    by_cases same : h = stray.1
    · subst same
      rw [beq_self_eq_true]
      by_cases own : stray.1 = k
      · simp only [Section.onStray, Move.work?, if_pos own, if_pos own.symm]
        rfl
      · simp only [Section.onStray, Move.work?, if_neg own, if_neg (Ne.symm own)]
        rfl
    · rw [beq_false_of_ne same]
      exact ih

/-- The profile that a handle leaves to its holders, as long as there are any. -/
def Leaves (s : Handover) (h : Handle) (p : ThreadProfile) : Prop :=
  s.strays.lookup h = if h ∈ s.held then some p else none

/-- What the holders do is done on the profile that was left to them. -/
theorem Leaves.step {p : ThreadProfile} (left : s.Leaves h p) (gone : s.Departed h) (tidy : s.Tidy)
    (x : Move) : (s.step x).1.Leaves h (p.run (x.work? h).toList) := by
  unfold Leaves at left ⊢
  cases tidy.course x with
  | keeps quiet stays residents strays next held =>
    rw [strays, left, quiet]
    simp only [held h gone.absent]
    rfl
  | drops k letting residents strays next held =>
    subst letting
    rw [strays, held, lookup_filter_key (fun key => key ≠ k ∨ k ∈ s.held.erase k), left]
    by_cases own : h = k
    · subst own
      by_cases holds : h ∈ s.held.erase h
      · simp only [holds, List.mem_of_mem_erase holds, or_true, decide_true, if_true]
        rfl
      · simp [holds]
    · simp only [ne_eq, own, not_false_eq_true, true_or, decide_true, if_true,
        List.mem_erase_of_ne own]
      rfl
  | begins who t d claims begun residents strays next held =>
    subst claims
    rw [strays, held, left]
    have differs : h ≠ s.next := Nat.ne_of_lt gone.used
    simp only [List.mem_cons, differs, false_or]
    rfl
  | works k a working residents strays next held =>
    subst working
    rw [strays, held, lookup_onStray, left]
    split <;> rfl
  | parts leaver parting quiet answer residents strays next held =>
    have differs : h ≠ leaver.2.handle := gone.ne (residents.symm.subset (.head _))
    rw [strays, held, quiet]
    split
    · rw [List.lookup_cons, beq_false_of_ne differs]
      exact left
    · exact left

theorem Leaves.run {p : ThreadProfile} (left : s.Leaves h p) (gone : s.Departed h) (tidy : s.Tidy)
    (v : List Move) : (s.run v).Departed h ∧ (s.run v).Leaves h (p.run (worked h v)) := by
  induction v generalizing s p with
  | nil => exact ⟨gone, left⟩
  | cons x v ih =>
    have later := ih (left.step gone tidy x) (gone.step tidy x) (tidy.step x)
    rw [worked_cons, ThreadProfile.run_append]
    exact later

/-- A handle that belongs to nobody stands for what was left to its holders. -/
theorem Departed.deref? (gone : s.Departed h) : s.shared.roster.deref? h = s.strays.lookup h := by
  have vacant : s.shared.roster.cells.find? (·.2.handle == h) = none := by
    rw [List.find?_eq_none]
    intro entry member same
    exact gone.ne (List.mem_append_left _ member) (eq_of_beq same).symm
  rw [Roster.deref?, vacant]

/-- What leaves is a resident, and its profile is the answer. Its handle is left to the holders. -/
theorem Tidy.leaves (tidy : s.Tidy) {x : Move} (parting : s.parts x = some entry) :
    entry ∈ s.residents ∧ (s.step x).2 = .dismissed entry.2.profile ∧
      (s.step x).1.Departed entry.2.handle ∧
      (s.step x).1.Leaves entry.2.handle entry.2.profile.fresh := by
  cases tidy.course x with
  | keeps quiet stays residents strays next held =>
    rw [parting] at stays
    cases stays
  | drops k is residents strays next held | begins who t d is begun residents strays next held
  | works k a is residents strays next held =>
    subst is
    cases parting
  | parts leaver leaving quiet answer residents strays next held =>
    obtain rfl := Option.some.inj (leaving.symm.trans parting)
    obtain ⟨cells, others, apart⟩ := List.nodup_append.mp tidy.handles
    have member : leaver ∈ s.residents := residents.symm.subset (.head _)
    have handle : leaver.2.handle ∈ s.residents.map (·.2.handle) := List.mem_map_of_mem member
    refine ⟨member, answer, ⟨?_, ?_⟩, ?_⟩
    · exact (List.nodup_cons.mp ((residents.map (·.2.handle)).nodup_iff.mp cells)).1
    · exact next ▸ tidy.used _ (List.mem_append_left _ handle)
    · have unknown : s.strays.lookup leaver.2.handle = none := by
        rw [List.lookup_eq_none_iff]
        intro stray other
        exact bne_iff_ne.mpr (apart _ handle _ (List.mem_map_of_mem other))
      rw [Leaves, strays, held]
      split
      · exact List.lookup_cons_self
      · exact unknown

/-! ### Nothing else can tell -/

/-- What there is without what was left behind at a handle. -/
def forget (s : Handover) (h : Handle) : Handover :=
  { s with
    shared := { s.shared with
      roster := { s.shared.roster with strays := s.strays.filter (·.1 ≠ h) } } }

/-- The moves that are no work on a handle. -/
def silence (h : Handle) (w : List Move) : List Move := w.filter fun x => (x.work? h).isNone

/-- What the moves are answered that are no work on a handle. -/
def answers (h : Handle) (s : Handover) : List Move → List Outcome
  | [] => []
  | x :: w =>
    if (x.work? h).isNone then (s.step x).2 :: answers h (s.step x).1 w else answers h (s.step x).1 w

theorem map_onEntry {l : List (ThreadId × Cell)} (absent : ∀ entry ∈ l, h ≠ entry.2.handle)
    (a : Action) : l.map (Section.work h a).onEntry = l := by
  calc l.map (Section.work h a).onEntry
      = l.map id := List.map_congr_left fun entry member => if_neg (absent entry member).symm
    _ = l := List.map_id l

theorem filter_onStray (k : Handle) (a : Action) (l : List (Handle × ThreadProfile)) :
    (l.map (Section.work k a).onStray).filter (·.1 ≠ h) =
      (l.filter (·.1 ≠ h)).map (Section.work k a).onStray := by
  rw [List.filter_map]
  apply congrArg
  apply List.filter_congr
  intro stray _
  simp only [Function.comp_apply, handle_onStray]

/-- Work on what was left behind changes nothing else. -/
theorem Departed.forget_work (gone : s.Departed h) (a : Action) :
    (s.step (.whole (.work h a))).1.forget h = s.forget h := by
  have cells : s.shared.roster.cells.map (Section.work h a).onEntry = s.shared.roster.cells :=
    map_onEntry (fun entry member => gone.ne (List.mem_append_left _ member)) a
  have removed : s.removed.map (Section.work h a).onEntry = s.removed :=
    map_onEntry (fun entry member => gone.ne (List.mem_append_right _ member)) a
  have strays : (s.strays.map (Section.work h a).onStray).filter (·.1 ≠ h) =
      s.strays.filter (·.1 ≠ h) := by
    rw [filter_onStray]
    calc (s.strays.filter (·.1 ≠ h)).map (Section.work h a).onStray
        = (s.strays.filter (·.1 ≠ h)).map id :=
          List.map_congr_left fun stray member => if_neg (by simpa using (List.mem_filter.mp member).2)
      _ = s.strays.filter (·.1 ≠ h) := List.map_id _
  show Handover.mk ⟨{ s.shared.roster with
      cells := s.shared.roster.cells.map (Section.work h a).onEntry
      strays := (s.strays.map (Section.work h a).onStray).filter (·.1 ≠ h) }, s.shared.claiming⟩
    (s.removed.map (Section.work h a).onEntry) = _
  rw [cells, removed, strays]
  rfl

theorem claiming_forget (s : Handover) (h : Handle) (who : Caller) :
    (s.forget h).shared.claiming who = s.shared.claiming who := rfl

theorem cell?_forget (s : Handover) (h : Handle) (t : ThreadId) :
    (s.forget h).shared.roster.cell? t = s.shared.roster.cell? t := rfl

theorem handle?_forget (s : Handover) (h : Handle) (t : ThreadId) :
    (s.forget h).shared.roster.handle? t = s.shared.roster.handle? t := rfl

theorem held_forget (s : Handover) (h : Handle) : (s.forget h).shared.roster.held = s.held := rfl

/-- A profile that another handle leaves to its holders is not what is forgotten. -/
theorem filter_left {k : Handle} (differs : k ≠ h) (p : ThreadProfile) (held : List Handle)
    (l : List (Handle × ThreadProfile)) :
    (if k ∈ held then (k, p) :: l else l).filter (·.1 ≠ h) =
      if k ∈ held then (k, p) :: l.filter (·.1 ≠ h) else l.filter (·.1 ≠ h) := by
  split
  · exact List.filter_cons_of_pos (by simpa using differs)
  · rfl

/-- No section needs to know what was left behind. -/
theorem Departed.forget_section (gone : s.Departed h) (x : Section) :
    (s.forget h).step (.whole x) =
      ((s.step (.whole x)).1.forget h, (s.step (.whole x)).2) := by
  cases x with
  | seek who t d =>
    have foreign : (s.forget h).shared.roster.isLibrary d.program =
      s.shared.roster.isLibrary d.program := rfl
    simp only [Handover.step, Shared.step, claiming_forget, handle?_forget, foreign]
    split
    · rfl
    · split
      · rfl
      · split <;> rfl
  | get t =>
    simp only [Handover.step, Shared.step, handle?_forget]
    split <;> rfl
  | work k a =>
    show (Handover.mk ⟨{ s.shared.roster with
        cells := s.shared.roster.cells.map (Section.work k a).onEntry
        strays := (s.strays.filter (·.1 ≠ h)).map (Section.work k a).onStray }, s.shared.claiming⟩
      (s.removed.map (Section.work k a).onEntry), Outcome.done) = _
    rw [← filter_onStray]
    rfl
  | letGo k =>
    let kept (stray : Handle × ThreadProfile) : Bool := stray.1 ≠ k ∨ k ∈ s.held.erase k
    show (Handover.mk ⟨{ s.shared.roster with
        held := s.held.erase k
        strays := (s.strays.filter (·.1 ≠ h)).filter kept }, s.shared.claiming⟩
      (s.removed.map id), Outcome.done) = _
    rw [List.filter_comm]
    rfl
  | dismiss t =>
    cases found : s.shared.roster.cell? t with
    | none =>
      simp only [Handover.step, Shared.step, dismiss, cell?_forget, found]
      rfl
    | some cell =>
      have differs : cell.handle ≠ h :=
        (gone.ne (List.mem_append_left s.removed (mem_cells_of_cell? found))).symm
      have left := filter_left differs cell.profile.fresh s.held s.strays
      simp only [Handover.step, Shared.step, dismiss, cell?_forget, found, held_forget]
      simp only [forget, left]
      rfl
  | claim who =>
    simp only [Handover.step, Shared.step, claiming_forget]
    split
    · rfl
    · next t d claiming =>
      cases known : s.shared.roster.handle? t with
      | some k =>
        simp only [Roster.claim, handle?_forget, known]
        rfl
      | none =>
        have service : (s.forget h).shared.roster.service = s.shared.roster.service := rfl
        cases outcome : s.shared.roster.service.addUser.2.1 with
        | error e =>
          simp only [Roster.claim, handle?_forget, known, service, outcome]
          rfl
        | ok =>
          simp only [Roster.claim, handle?_forget, known, service, outcome]
          rfl

/-- No move does. -/
theorem Departed.forget_step (gone : s.Departed h) (x : Move) :
    (s.forget h).step x = ((s.step x).1.forget h, (s.step x).2) := by
  cases x with
  | whole x => exact gone.forget_section x
  | copy k =>
    by_cases holds : k ∈ s.held
    · have holds' : k ∈ (s.forget h).held := holds
      simp only [Handover.step, if_pos holds, if_pos holds']
      rfl
    · have holds' : k ∉ (s.forget h).held := holds
      simp only [Handover.step, if_neg holds, if_neg holds']
  | remove t =>
    simp only [Handover.step, cell?_forget]
    split <;> rfl
  | takeOut k =>
    have removed : (s.forget h).removed = s.removed := rfl
    cases found : s.removed.find? (·.2.handle = k) with
    | none =>
      simp only [Handover.step, removed, found]
    | some entry =>
      have differs : k ≠ h := by
        have handle : entry.2.handle = k := by simpa using List.find?_some found
        rw [← handle]
        exact (gone.ne (List.mem_append_right _ (List.mem_of_find?_eq_some found))).symm
      simp only [Handover.step, found, takeOut_eq, forget, filter_left differs]

/-- Whatever is done on what was left behind, the rest goes on as if it were not there. -/
theorem Departed.forget_run (gone : s.Departed h) (tidy : s.Tidy) (v : List Move) :
    (s.run v).forget h = (s.forget h).run (silence h v) ∧
      answers h s v = answers h (s.forget h) (silence h v) := by
  induction v generalizing s with
  | nil => exact ⟨rfl, rfl⟩
  | cons x v ih =>
    obtain ⟨state, said⟩ := ih (gone.step tidy x) (tidy.step x)
    cases done : x.work? h with
    | none =>
      have here : silence h (x :: v) = x :: silence h v := List.filter_cons_of_pos (by rw [done]; rfl)
      rw [here, run_cons, run_cons, state, answers, answers, done, gone.forget_step x, said]
      exact ⟨rfl, rfl⟩
    | some a =>
      have here : silence h (x :: v) = silence h v := List.filter_cons_of_neg (by rw [done]; nofun)
      obtain rfl := Move.eq_of_work? done
      rw [gone.forget_work a] at state said
      rw [here, run_cons, state, answers, done, said]
      exact ⟨rfl, rfl⟩

theorem silence_silence (h : Handle) (v : List Move) : silence h (silence h v) = silence h v := by
  rw [silence, silence, List.filter_filter]
  simp only [Bool.and_self]

/-- Nothing but what was left behind can tell what is done on it. -/
theorem Departed.silenced (gone : s.Departed h) (tidy : s.Tidy) (v : List Move) :
    (s.run v).forget h = (s.run (silence h v)).forget h ∧
      answers h s v = answers h s (silence h v) := by
  have noisy := gone.forget_run tidy v
  have silent := gone.forget_run tidy (silence h v)
  rw [silence_silence] at silent
  exact ⟨noisy.1.trans silent.1.symm, noisy.2.trans silent.2.symm⟩

end Handover

end Roster

end SimdProfile

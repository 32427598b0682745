import SimdProfile.Proofs.Profile.Outline
import SimdProfile.Proofs.Request.History

/-!
# Requests on profiles alike

What a request does to a profile, and what it is answered, depends on no more than the outline of the
profile and the terms of the profiler. So two profilers with the same terms whose profiles of a thread
have one outline answer this thread alike, and again have profiles of one outline: `serve_alike`.
-/

namespace SimdProfile

theorem ThreadProfile.innermostId?_of_outline {c d : ThreadProfile} (h : c.outline = d.outline) :
    c.innermostId? = d.innermostId? := by
  have frames : c.stack.map Frame.outline = d.stack.map Frame.outline := congrArg Outline.frames h
  unfold innermostId?
  cases hc : c.stack with
  | nil =>
    rw [hc] at frames
    rw [List.map_eq_nil_iff.mp frames.symm]
    rfl
  | cons f rest =>
    rw [hc] at frames
    obtain ⟨g, rest', hd, same, -⟩ := List.map_eq_cons_iff.mp frames.symm
    rw [hd]
    exact frameId?_of_outline h same.symm

namespace Request

variable {c d : ThreadProfile}

/-- The calls a request stands for are alike on profiles of one declaration. -/
theorem actions_alike (same : c.declaration = d.declaration) (terms : Terms) (next next' : Snapshot)
    (r : Request) :
    List.Forall₂ Action.Alike (r.actions terms next c) (r.actions terms next' d) := by
  have reads : c.readsCounters = d.readsCounters := by simp only [ThreadProfile.readsCounters, same]
  have records (kind : RegionKind) : c.records kind = d.records kind := by
    simp only [ThreadProfile.records, same]
  have taken (wanted : Bool) : (if wanted then some next else none).isSome =
      (if wanted then some next' else none).isSome := by
    cases wanted <;> rfl
  have observing (line : Int32) (mask : UInt64) (kindCode : Int32) :
      List.Forall₂ Action.Alike (Call.observing c line mask kindCode)
        (Call.observing d line mask kindCode) := by
    unfold Call.observing
    cases RegionKind.ofCode? kindCode with
    | none => exact .nil
    | some kind =>
      simp only [records]
      split
      · exact .cons (.observe line mask) .nil
      · exact .nil
  unfold actions
  cases r.read with
  | error e => exact .nil
  | ok call =>
    cases call with
    | start origin kindCode startLine endLine task mask =>
      simp only [Call.actions, reads, records]
      cases RegionKind.ofCode? kindCode with
      | none => exact .nil
      | some kind =>
        dsimp only
        split
        · exact .cons (.suppress kind) .nil
        · exact .cons (.declareTask task) (.cons (.enter kind startLine endLine mask (taken _)) .nil)
    | stop kindCode line =>
      simp only [Call.actions, reads]
      exact .cons (.leave _ _ (taken _) line) .nil
    | iteration note line mask kindCode => exact observing line mask kindCode
    | branch note line mask kindCode => exact observing line mask kindCode
    | declare | finish => exact .nil

theorem outline_actions (h : c.outline = d.outline) (terms : Terms) (next next' : Snapshot)
    (r : Request) :
    (c.run (r.actions terms next c)).outline = (d.run (r.actions terms next' d)).outline :=
  ThreadProfile.outline_run h
    (actions_alike (ThreadProfile.declaration_of_outline h) terms next next' r)

/-- The answer to a request depends on no more than the outline of the profile. -/
theorem answer_of_outline (h : c.outline = d.outline) (terms : Terms) (next next' : Snapshot)
    (r : Request) : r.answer terms next c = r.answer terms next' d := by
  have records (kind : RegionKind) : c.records kind = d.records kind := by
    simp only [ThreadProfile.records, ThreadProfile.declaration_of_outline h]
  have empty := ThreadProfile.isEmpty_of_outline h
  have innermost := ThreadProfile.innermostId?_of_outline h
  have after := ThreadProfile.innermostId?_of_outline (outline_actions h terms next next' r)
  unfold actions at after
  unfold answer
  cases read : r.read with
  | error e => rfl
  | ok call =>
    simp only [read] at after
    cases call with
    | start origin kindCode startLine endLine task mask => simp only [Call.answer, after]
    | stop kindCode line => simp only [Call.answer, empty, innermost]
    | iteration note line mask kindCode =>
      simp only [Call.answer, Call.observed, records, empty, innermost]
    | branch note line mask kindCode =>
      simp only [Call.answer, Call.observed, records, empty, innermost]
    | declare | finish => rfl

end Request

namespace Counters.Service

/-- The service without the count of its snapshots. -/
def untaken (s : Service) : Service := { s with taken := 0 }

theorem addUser_of_untaken {s s' : Service} (same : s.untaken = s'.untaken) :
    s.addUser.2.1 = s'.addUser.2.1 ∧ s.addUser.1.untaken = s'.addUser.1.untaken := by
  obtain ⟨source, users, attempts, programmed, released, taken⟩ := s
  obtain ⟨source', users', attempts', programmed', released', taken'⟩ := s'
  simp only [untaken, mk.injEq, and_true] at same
  obtain ⟨rfl, rfl, rfl, rfl, rfl⟩ := same
  simp only [addUser]
  split
  · split <;> exact ⟨rfl, rfl⟩
  · exact ⟨rfl, rfl⟩

theorem dropUser_of_untaken {s s' : Service} (same : s.untaken = s'.untaken) :
    s.dropUser.1.untaken = s'.dropUser.1.untaken := by
  obtain ⟨source, users, attempts, programmed, released, taken⟩ := s
  obtain ⟨source', users', attempts', programmed', released', taken'⟩ := s'
  simp only [untaken, mk.injEq, and_true] at same
  obtain ⟨rfl, rfl, rfl, rfl, rfl⟩ := same
  simp only [dropUser]
  split <;> rfl

end Counters.Service

namespace Profiler

variable {p q : Profiler} {t : ThreadId}

/-- Two profilers answer a thread alike, and what they leave it are profiles on which calls alike have
been made. -/
structure Agree (p q : Profiler) (t : ThreadId) (r : Request) (c d : ThreadProfile) : Prop where
  result : (p.serve t r).result = (q.serve t r).result
  profiles : ∃ as bs, List.Forall₂ Action.Alike as bs ∧
    (p.serve t r).profiler.roster.profile? t = some (c.run as) ∧
      (q.serve t r).profiler.roster.profile? t = some (d.run bs)

variable {r : Request} {c d : ThreadProfile}

/-- On profiles of one outline. -/
theorem agree_of_some (terms : p.terms = q.terms) (hasP : p.roster.profile? t = some c)
    (hasQ : q.roster.profile? t = some d) (outline : c.outline = d.outline)
    (goes : r.operation ≠ .finish) : Agree p q t r c d := by
  have effectP := serve_of_some hasP goes
  have effectQ := serve_of_some hasQ goes
  rw [← terms] at effectQ
  refine ⟨?_, _, _, Request.actions_alike (ThreadProfile.declaration_of_outline outline) _ _ _ r,
    effectP.own, effectQ.own⟩
  rw [effectP.result, effectQ.result]
  exact Request.answer_of_outline outline ..

/-- On profiles that are begun. -/
theorem agree_of_accepts {declared : Declaration} (terms : p.terms = q.terms)
    (hasP : p.roster.profile? t = none) (hasQ : q.roster.profile? t = none)
    (begins : r.declaration? p.terms = some declared)
    (acceptedP : p.roster.service.addUser.2.1 = .ok ())
    (acceptedQ : q.roster.service.addUser.2.1 = .ok ()) :
    Agree p q t r (.create t declared) (.create t declared) := by
  have effectP := serve_of_accepts hasP begins acceptedP
  have effectQ := serve_of_accepts hasQ (terms ▸ begins) acceptedQ
  rw [← terms] at effectQ
  refine ⟨?_, _, _, Request.actions_alike rfl _ _ _ r, effectP.own, effectQ.own⟩
  rw [effectP.result, effectQ.result]
  exact Request.answer_of_outline rfl ..

/-- Two profilers with the same terms and profiles of one outline serve a thread alike. To end a profile is
answered from the archive. -/
theorem serve_alike (terms : p.terms = q.terms)
    (outlines : (p.roster.profile? t).map (·.outline) = (q.roster.profile? t).map (·.outline))
    (users : p.roster.service.addUser.2.1 = q.roster.service.addUser.2.1) (r : Request) :
    (r.operation ≠ .finish → (p.serve t r).result = (q.serve t r).result) ∧
      (p.roster.service.untaken = q.roster.service.untaken →
        (p.serve t r).profiler.roster.service.untaken =
          (q.serve t r).profiler.roster.service.untaken) ∧
      Option.Rel (fun after after' => ∃ c d as bs, c.outline = d.outline ∧
          (p.roster.profile? t = some c ∧ q.roster.profile? t = some d ∨
            ∃ declared, c = .create t declared ∧ d = .create t declared) ∧
          List.Forall₂ Action.Alike as bs ∧ after = c.run as ∧ after' = d.run bs)
        ((p.serve t r).profiler.roster.profile? t) ((q.serve t r).profiler.roster.profile? t) := by
  cases hasP : p.roster.profile? t with
  | none =>
    have hasQ : q.roster.profile? t = none := by
      rw [hasP] at outlines
      exact Option.map_eq_none_iff.mp outlines.symm
    cases begins : r.declaration? p.terms with
    | none =>
      have effectP := serve_of_none hasP begins
      have effectQ := serve_of_none hasQ (terms ▸ begins)
      refine ⟨fun _ => effectP.result.trans effectQ.result.symm, fun service => ?_, ?_⟩
      · rw [effectP.service, effectQ.service, service]
      · rw [effectP.own, effectQ.own]
        exact .none
    | some declared =>
      cases programmed : p.roster.service.addUser.2.1 with
      | error e =>
        have effectP := serve_of_refuses hasP begins programmed
        have effectQ := serve_of_refuses hasQ (terms ▸ begins) (users ▸ programmed)
        refine ⟨fun _ => effectP.result.trans effectQ.result.symm, fun service => ?_, ?_⟩
        · rw [effectP.service, effectQ.service, (Counters.Service.addUser_of_untaken service).2]
        · rw [effectP.own, effectQ.own]
          exact .none
      | ok =>
        have programmed' : q.roster.service.addUser.2.1 = .ok () := users ▸ programmed
        obtain ⟨result, as, bs, alike, afterP, afterQ⟩ :=
          agree_of_accepts terms hasP hasQ begins programmed programmed'
        refine ⟨fun _ => result, fun service => ?_, ?_⟩
        · rw [(serve_of_accepts hasP begins programmed).service,
            (serve_of_accepts hasQ (terms ▸ begins) programmed').service, ← terms]
          exact (Counters.Service.addUser_of_untaken service).2
        · rw [afterP, afterQ]
          exact .some ⟨_, _, as, bs, rfl, .inr ⟨declared, rfl, rfl⟩, alike, rfl, rfl⟩
  | some c =>
    rw [hasP] at outlines
    obtain ⟨d, hasQ, outline⟩ := Option.map_eq_some_iff.mp outlines.symm
    by_cases finish : r.operation = .finish
    · have effectP := (serve_of_finish hasP finish).1
      have effectQ := (serve_of_finish hasQ finish).1
      refine ⟨fun other => absurd finish other, fun service => ?_, ?_⟩
      · rw [effectP.service, effectQ.service, Counters.Service.dropUser_of_untaken service]
      · rw [effectP.own, effectQ.own]
        exact .none
    · obtain ⟨result, as, bs, alike, afterP, afterQ⟩ :=
        agree_of_some terms hasP hasQ outline.symm finish
      refine ⟨fun _ => result, fun service => ?_, ?_⟩
      · rw [(serve_of_some hasP finish).service, (serve_of_some hasQ finish).service]
        exact service
      · rw [afterP, afterQ]
        exact .some ⟨c, d, as, bs, outline.symm, .inl ⟨rfl, hasQ⟩, alike, rfl, rfl⟩

/-- Two profilers that serve a thread alike leave it profiles of one outline. -/
theorem outline_serve (terms : p.terms = q.terms)
    (outlines : (p.roster.profile? t).map (·.outline) = (q.roster.profile? t).map (·.outline))
    (users : p.roster.service.addUser.2.1 = q.roster.service.addUser.2.1) (r : Request) :
    ((p.serve t r).profiler.roster.profile? t).map (·.outline) =
      ((q.serve t r).profiler.roster.profile? t).map (·.outline) := by
  have after := (serve_alike terms outlines users r).2.2
  generalize (p.serve t r).profiler.roster.profile? t = left at after ⊢
  generalize (q.serve t r).profiler.roster.profile? t = right at after ⊢
  cases after with
  | none => rfl
  | some related =>
    obtain ⟨c, d, as, bs, outline, -, alike, rfl, rfl⟩ := related
    exact congrArg some (ThreadProfile.outline_run outline alike)

end Profiler

end SimdProfile

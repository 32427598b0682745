import Mathlib.Data.List.Forall2
import SimdProfile.Proofs.Profile.Samples

/-!
# Outlines

The outline of a profile is what neither the values of the counters nor the declared task can change:
identities, end lines, counts and tallies of all regions, and the open frames, with whether they were
sampled but not with what. Calls that agree up to their snapshots take profiles of one outline to
profiles of one outline: `outline_act`. A profile that does not read the counters is given by its
outline and its task.
-/

namespace SimdProfile

/-- A region without the values of its averages. -/
structure Region.Outline where
  id : RegionId
  key : RegionKey
  endLine : Int32
  initialMask : UInt64
  entries : Nat
  samples : Nat
  laneUsage : Histogram
  fullMask : Histogram
  deriving DecidableEq

/-- The outline of a region. -/
def Region.outline (r : Region) : Outline where
  id := r.id
  key := r.key
  endLine := r.endLine
  initialMask := r.initialMask
  entries := r.entries
  samples := r.averages.samples
  laneUsage := r.laneUsage
  fullMask := r.fullMask

/-- A frame without its snapshot, but with whether it has one. -/
inductive Frame.Outline where
  | recorded (slot : Nat) (sampled : Bool)
  | suppressed (kind : RegionKind)
  deriving DecidableEq

/-- The outline of a frame. -/
def Frame.outline : Frame → Outline
  | .recorded slot baseline => .recorded slot baseline.isSome
  | .suppressed kind => .suppressed kind

/-- A profile without its task and the values of the counters. -/
structure ThreadProfile.Outline where
  owner : ThreadId
  declaration : Declaration
  frames : List Frame.Outline
  regions : List Region.Outline
  table : List (RegionKey × Nat)
  nextId : RegionId
  deriving DecidableEq

/-- The outline of a profile. -/
def ThreadProfile.outline (p : ThreadProfile) : Outline where
  owner := p.owner
  declaration := p.declaration
  frames := p.stack.map Frame.outline
  regions := p.regions.map Region.outline
  table := p.table
  nextId := p.nextId

/-- Calls that agree up to their snapshots and the metrics of those. -/
inductive Action.Alike : Action → Action → Prop
  | enter (kind : RegionKind) (startLine endLine : Int32) (mask : UInt64)
      {snapshot snapshot' : Option Snapshot} (same : snapshot.isSome = snapshot'.isSome) :
      Alike (.enter kind startLine endLine mask snapshot) (.enter kind startLine endLine mask snapshot')
  | suppress (kind : RegionKind) : Alike (.suppress kind) (.suppress kind)
  | leave (measure measure' : Snapshot → Snapshot → Sample Float) {exit exit' : Option Snapshot}
      (same : exit.isSome = exit'.isSome) (line : Int32) :
      Alike (.leave measure exit line) (.leave measure' exit' line)
  | observe (line : Int32) (mask : UInt64) : Alike (.observe line mask) (.observe line mask)
  | declareTask (task : Int32) : Alike (.declareTask task) (.declareTask task)

/-- Lists alike in what `f` shows are alike in what `g` shows, if that shows no more. -/
theorem map_eq_of_map_eq {α β γ : Type} {f : α → β} {g : α → γ} {l m : List α}
    (less : ∀ a ∈ l, ∀ b ∈ m, f a = f b → g a = g b) (h : l.map f = m.map f) :
    l.map g = m.map g := by
  induction l generalizing m with
  | nil => rw [List.map_eq_nil_iff.mp h.symm]
  | cons a l ih =>
    obtain ⟨b, m', rfl, top, rest⟩ := List.map_eq_cons_iff.mp h.symm
    rw [List.map_cons, List.map_cons, less a (.head _) b (.head _) top.symm,
      ih (fun x hx y hy => less x (.tail _ hx) y (.tail _ hy)) rest.symm]

namespace Region

variable {r s : Region}

theorem outline_countEntry (h : r.outline = s.outline) : r.countEntry.outline = s.countEntry.outline := by
  simp only [outline, Outline.mk.injEq, countEntry] at h ⊢
  simp [h]

theorem outline_reach (h : r.outline = s.outline) (line : Int32) :
    (r.reach line).outline = (s.reach line).outline := by
  simp only [outline, Outline.mk.injEq, reach] at h ⊢
  simp [h]

theorem outline_observe (h : r.outline = s.outline) (line : Int32) (mask : UInt64) (width : Nat) :
    (r.observe line mask width).outline = (s.observe line mask width).outline := by
  simp only [outline, Outline.mk.injEq, observe] at h ⊢
  simp [h]

theorem samples_addExit (a : Averages Float) (sample : Option (Sample Float)) :
    (a.addExit sample).samples = a.samples + sample.isSome.toNat := by
  cases sample <;> rfl

theorem outline_close (h : r.outline = s.outline) {sample sample' : Option (Sample Float)}
    (same : sample.isSome = sample'.isSome) (line : Int32) :
    (r.close sample line).outline = (s.close sample' line).outline := by
  simp only [outline, Outline.mk.injEq, close, reach, samples_addExit] at h ⊢
  simp [h, same]

end Region

namespace ThreadProfile

variable {c d : ThreadProfile}

theorem isSome_sample (measure : Snapshot → Snapshot → Sample Float) (baseline exit : Option Snapshot) :
    (sample measure baseline exit).isSome = (baseline.isSome && exit.isSome) := by
  cases baseline <;> cases exit <;> rfl

/-- The same change of a region at the same place. -/
theorem outline_modify {f g : Region → Region} {rs ss : List Region}
    (kept : ∀ r s, r.outline = s.outline → (f r).outline = (g s).outline)
    (h : rs.map Region.outline = ss.map Region.outline) (slot : Nat) :
    (rs.modify slot f).map Region.outline = (ss.modify slot g).map Region.outline := by
  apply List.ext_getElem?
  intro i
  have here := congrArg (·[i]?) h
  simp only [List.getElem?_map, List.getElem?_modify] at here ⊢
  cases hr : rs[i]? with
  | none => cases hs : ss[i]? <;> simp_all
  | some r =>
    cases hs : ss[i]? with
    | none => simp [hr, hs] at here
    | some s =>
      rw [hr, hs] at here
      have same : r.outline = s.outline := Option.some.inj here
      by_cases own : slot = i
      · simpa [own] using kept r s same
      · simpa [own] using same

theorem outline_enter (h : c.outline = d.outline) (kind : RegionKind) (startLine endLine : Int32)
    (mask : UInt64) {snapshot snapshot' : Option Snapshot} (same : snapshot.isSome = snapshot'.isSome) :
    (c.enter kind startLine endLine mask snapshot).1.outline =
      (d.enter kind startLine endLine mask snapshot').1.outline := by
  simp only [outline, Outline.mk.injEq] at h
  obtain ⟨owner, declaration, frames, regions, table, nextId⟩ := h
  have baseline : (c.baseline snapshot).isSome = (d.baseline snapshot').isSome := by
    simp only [ThreadProfile.baseline, readsCounters, declaration]
    by_cases reads : d.declaration.flags.readsCounters <;> simp [reads, same]
  have records : c.records kind = d.records kind := by simp only [ThreadProfile.records, declaration]
  have slots : c.slot? ⟨startLine, kind⟩ = d.slot? ⟨startLine, kind⟩ := by simp only [slot?, table]
  have lengths : c.regions.length = d.regions.length := by simpa using congrArg List.length regions
  cases hr : d.records kind with
  | false =>
    rw [enter_of_not_records (records.trans hr), enter_of_not_records hr]
    simp only [outline, suppress, owner, declaration, frames, regions, table, nextId, List.map_cons]
  | true =>
    cases hs : d.slot? ⟨startLine, kind⟩ with
    | some slot =>
      have changed := outline_modify (f := fun r => (r.reach endLine).countEntry)
        (g := fun r => (r.reach endLine).countEntry)
        (fun r s same => Region.outline_countEntry (Region.outline_reach same endLine)) regions slot
      rw [enter_of_known (records.trans hr) (slots.trans hs), enter_of_known hr hs]
      simp only [outline, amendRegion, changed, owner, declaration, frames, table, nextId,
        List.map_cons, Frame.outline, baseline]
    | none =>
      rw [enter_of_new (records.trans hr) (slots.trans hs), enter_of_new hr hs]
      simp only [outline, lengths, owner, declaration, frames, regions, table, nextId,
        List.map_cons, List.map_append, List.map_nil, Frame.outline, baseline]

/-- Stacks of one outline have innermost frames alike. -/
theorem frames_cases {fs gs : List Frame} (h : fs.map Frame.outline = gs.map Frame.outline) :
    (fs = [] ∧ gs = []) ∨
      ∃ rest rest', rest.map Frame.outline = rest'.map Frame.outline ∧
        ((∃ kind, fs = .suppressed kind :: rest ∧ gs = .suppressed kind :: rest') ∨
          ∃ slot base base', base.isSome = base'.isSome ∧
            fs = .recorded slot base :: rest ∧ gs = .recorded slot base' :: rest') := by
  cases fs with
  | nil => exact .inl ⟨rfl, List.map_eq_nil_iff.mp h.symm⟩
  | cons f rest =>
    obtain ⟨g, rest', rfl, top, tail⟩ := List.map_eq_cons_iff.mp h.symm
    refine .inr ⟨rest, rest', tail.symm, ?_⟩
    cases f with
    | suppressed kind =>
      cases g with
      | suppressed kind' =>
        cases top
        exact .inl ⟨kind, rfl, rfl⟩
      | recorded => cases top
    | recorded slot base =>
      cases g with
      | suppressed => cases top
      | recorded slot' base' =>
        simp only [Frame.outline, Frame.Outline.recorded.injEq] at top
        obtain ⟨rfl, sampled⟩ := top
        exact .inr ⟨slot', base, base', sampled.symm, rfl, rfl⟩

theorem outline_leave (h : c.outline = d.outline) (measure measure' : Snapshot → Snapshot → Sample Float)
    {exit exit' : Option Snapshot} (same : exit.isSome = exit'.isSome) (line : Int32) :
    (c.act (.leave measure exit line)).outline = (d.act (.leave measure' exit' line)).outline := by
  have whole := h
  simp only [outline, Outline.mk.injEq] at h
  obtain ⟨owner, declaration, frames, regions, table, nextId⟩ := h
  rw [act_leave, act_leave]
  rcases frames_cases frames with
    ⟨hc, hd⟩ | ⟨rest, rest', frames, ⟨kind, hc, hd⟩ | ⟨slot, base, base', sampled, hc, hd⟩⟩
  · simp only [hc, hd]
    exact whole
  · simp only [hc, hd, outline, owner, declaration, frames, regions, table, nextId]
  · have changed := outline_modify (f := (·.close (sample measure base exit) line))
      (g := (·.close (sample measure' base' exit') line))
      (fun r s alike => Region.outline_close alike
        (by rw [isSome_sample, isSome_sample, sampled, same]) line) regions slot
    simp only [hc, hd, outline, amendRegion, changed, owner, declaration, frames, table, nextId]

theorem outline_observe (h : c.outline = d.outline) (line : Int32) (mask : UInt64) :
    (c.act (.observe line mask)).outline = (d.act (.observe line mask)).outline := by
  have whole := h
  simp only [outline, Outline.mk.injEq] at h
  obtain ⟨owner, declaration, frames, regions, table, nextId⟩ := h
  rw [act_observe, act_observe]
  rcases frames_cases frames with
    ⟨hc, hd⟩ | ⟨rest, rest', -, ⟨kind, hc, hd⟩ | ⟨slot, _, _, -, hc, hd⟩⟩
  · simp only [hc, hd]
    exact whole
  · simp only [hc, hd]
    exact whole
  · have changed := outline_modify
      (fun r s alike => Region.outline_observe alike line mask d.declaration.laneWidth.toNat)
      regions slot
    simp only [hc, hd]
    simp only [outline, amendRegion, changed, owner, declaration, frames, table, nextId]

/-- Calls alike keep outlines alike. -/
theorem outline_act (h : c.outline = d.outline) {a b : Action} (alike : a.Alike b) :
    (c.act a).outline = (d.act b).outline := by
  cases alike with
  | enter kind startLine endLine mask same => exact outline_enter h kind startLine endLine mask same
  | suppress kind =>
    simp only [outline, Outline.mk.injEq] at h
    simp only [outline, act, suppress, List.map_cons, h]
  | leave measure measure' same line => exact outline_leave h measure measure' same line
  | observe line mask => exact outline_observe h line mask
  | declareTask task => exact h

/-- Rows of calls alike keep outlines alike. -/
theorem outline_run {as bs : List Action} (h : c.outline = d.outline)
    (alike : List.Forall₂ Action.Alike as bs) : (c.run as).outline = (d.run bs).outline := by
  induction alike generalizing c d with
  | nil => exact h
  | cons first _ ih => exact ih (outline_act h first)

theorem declaration_of_outline (h : c.outline = d.outline) : c.declaration = d.declaration :=
  congrArg Outline.declaration h

/-- Frames alike stand for the same region. -/
theorem frameId?_of_outline (h : c.outline = d.outline) {f g : Frame} (same : f.outline = g.outline) :
    c.frameId? f = d.frameId? g := by
  have regions : c.regions.map Region.outline = d.regions.map Region.outline :=
    congrArg Outline.regions h
  cases f with
  | suppressed kind =>
    cases g with
    | suppressed => rfl
    | recorded => cases same
  | recorded slot base =>
    cases g with
    | suppressed => cases same
    | recorded slot' base' =>
      simp only [Frame.outline, Frame.Outline.recorded.injEq] at same
      have here := congrArg (fun rs => rs[slot]?.map Region.Outline.id) regions
      simp only [List.getElem?_map, Option.map_map] at here
      rw [frameId?_recorded, frameId?_recorded, ← same.1]
      exact here

theorem isEmpty_of_outline (h : c.outline = d.outline) : c.stack.isEmpty = d.stack.isEmpty := by
  have frames := congrArg (·.frames.isEmpty) h
  simpa only [outline, List.isEmpty_map] using frames

/-- Without counters there is nothing to a profile but its outline and its task. -/
theorem eq_of_outline (h : c.outline = d.outline) (task : c.declaredTask = d.declaredTask)
    (hc : c.Unsampled) (hd : d.Unsampled) : c = d := by
  simp only [outline, Outline.mk.injEq] at h
  obtain ⟨owner, declaration, frames, regions, table, nextId⟩ := h
  have stack : c.stack = d.stack := by
    rw [← c.stack.map_id, ← d.stack.map_id]
    refine map_eq_of_map_eq (fun f hf g hg same => ?_) frames
    cases f with
    | suppressed kind =>
      cases g with
      | suppressed =>
        cases same
        rfl
      | recorded => cases same
    | recorded slot base =>
      cases g with
      | suppressed => cases same
      | recorded slot' base' =>
        simp only [Frame.outline, Frame.Outline.recorded.injEq] at same
        rw [same.1, hc.frames slot base hf, hd.frames slot' base' hg]
  have regions : c.regions = d.regions := by
    rw [← c.regions.map_id, ← d.regions.map_id]
    refine map_eq_of_map_eq (fun r hr s hs same => ?_) regions
    have emptyR := hc.regions r hr
    have emptyS := hd.regions s hs
    cases r
    cases s
    simp_all [Region.outline]
  cases c
  cases d
  simp_all

/-- Only a declaration of a task touches the task, and it keeps the first one. -/
theorem declaredTask_act (c : ThreadProfile) (a : Action) :
    (c.act a).declaredTask =
      match a with
      | .declareTask task => some (c.declaredTask.getD task)
      | _ => c.declaredTask := by
  cases a with
  | enter kind startLine endLine mask snapshot =>
    rcases c.enter_cases kind startLine endLine mask snapshot with
      ⟨-, entered⟩ | ⟨-, slot, -, entered⟩ | ⟨-, -, entered⟩ <;> rw [act, entered] <;> rfl
  | suppress kind => rfl
  | leave measure exit line =>
    rw [act_leave]
    split <;> rfl
  | observe line mask =>
    rw [act_observe]
    split <;> rfl
  | declareTask task => rfl

theorem declaredTask_of_alike (same : c.declaredTask = d.declaredTask) {a b : Action}
    (alike : a.Alike b) : (c.act a).declaredTask = (d.act b).declaredTask := by
  rw [declaredTask_act, declaredTask_act]
  cases alike <;> simp only [same]

theorem declaredTask_run {as bs : List Action} (same : c.declaredTask = d.declaredTask)
    (alike : List.Forall₂ Action.Alike as bs) : (c.run as).declaredTask = (d.run bs).declaredTask := by
  induction alike generalizing c d with
  | nil => exact same
  | cons first _ ih => exact ih (declaredTask_of_alike same first)

end ThreadProfile

end SimdProfile

import SimdProfile.Proofs.Profile.Samples
import SimdProfile.Proofs.Request.History

/-!
# Sampling

What the turns of a profile say about its entries, without a look at the profile: a start that is
answered opens an entry, a stop that is answered closes the innermost one, and each entry has the
snapshots taken in its two turns. The averages of a region are those of its closed entries, each with
one sample from the snapshot of its start and that of its stop. A profile that does not read the counters
has no snapshot taken and no sample.
-/

namespace SimdProfile

/-- An entry that has ended: its region, and the snapshots taken as it started and as it stopped. -/
structure ClosedEntry where
  region : RegionId
  started : List Snapshot
  stopped : List Snapshot
  deriving DecidableEq

/-- The open entries, the innermost first, and those that have ended, in the order of their ends. An
open entry that is not recorded has no region. -/
structure EntryTrace where
  opened : List (Option (RegionId × List Snapshot))
  closed : List ClosedEntry
  deriving DecidableEq

namespace EntryTrace

/-- No entry. -/
def empty : EntryTrace := ⟨[], []⟩

/-- An entry starts. -/
def push (e : EntryTrace) (entry : Option (RegionId × List Snapshot)) : EntryTrace :=
  { e with opened := entry :: e.opened }

/-- The innermost entry ends. -/
def pop (e : EntryTrace) (stopped : List Snapshot) : EntryTrace :=
  match e.opened with
  | [] => e
  | none :: rest => { e with opened := rest }
  | some (id, started) :: rest => ⟨rest, e.closed ++ [⟨id, started, stopped⟩]⟩

/-- What a turn does to the entries. -/
def step (e : EntryTrace) (x : Turn) : EntryTrace :=
  match x.request.operation, x.reply.result with
  | .start, .ok (.region id) => e.push (id.map fun id => (id, x.snapshots))
  | .stop, .ok _ => e.pop x.snapshots
  | _, _ => e

/-- The entries of a region that have ended. -/
def closedOf (e : EntryTrace) (id : RegionId) : List ClosedEntry := e.closed.filter (·.region == id)

theorem step_of_other {x : Turn} (stop : x.request.operation ≠ .stop)
    (start : x.request.operation ≠ .start ∨ ∃ error, x.reply.result = .error error) (e : EntryTrace) :
    e.step x = e := by
  unfold step
  split
  · next named answered =>
    rcases start with start | ⟨error, failed⟩
    · exact absurd named start
    · cases answered.symm.trans failed
  · next named _ => exact absurd named stop
  · rfl

end EntryTrace

/-- The open entry that a frame stands for. -/
def Frame.entry : Frame → Option (RegionId × List Snapshot)
  | .recorded slot base => some (slot, base.toList)
  | .suppressed _ => none

/-- The averages after an entry has ended, with its sample if it has both snapshots. -/
def Averages.addEntry (measure : Snapshot → Snapshot → Sample Float) (a : Averages Float)
    (e : ClosedEntry) : Averages Float :=
  a.addExit (ThreadProfile.sample measure e.started.head? e.stopped.head?)

/-- The entries of a profile are those of its turns, with one snapshot at either end if it reads the
counters, and its averages are over the entries that have ended. -/
structure Sampled (measure : Snapshot → Snapshot → Sample Float) (e : EntryTrace) (c : ThreadProfile) :
    Prop where
  wellFormed : c.WellFormed
  opened : e.opened = c.stack.map Frame.entry
  started : ∀ id started, some (id, started) ∈ e.opened → started.length = c.readsCounters.toNat
  paired : ∀ entry ∈ e.closed,
    entry.started.length = c.readsCounters.toNat ∧ entry.stopped.length = c.readsCounters.toNat
  averages : ∀ id, c.averagesOf id = (e.closedOf id).foldl (Averages.addEntry measure) .empty
  entries : ∀ id, c.entriesOf id = c.framesOf id + (e.closedOf id).length

namespace Sampled

variable {measure : Snapshot → Snapshot → Sample Float} {e : EntryTrace} {c : ThreadProfile}

theorem create (t : ThreadId) (d : Declaration) : Sampled measure .empty (.create t d) where
  wellFormed := ThreadProfile.wellFormed_create t d
  opened := rfl
  started := nofun
  paired := nofun
  averages _ := rfl
  entries _ := rfl

/-- Calls without an end change neither averages nor what has ended. -/
theorem run (h : Sampled measure e c) {as : List Action} (stays : as.all (! ·.isLeave))
    {opened : List (Option (RegionId × List Snapshot))}
    (stack : opened = (c.run as).stack.map Frame.entry)
    (started : ∀ id started, some (id, started) ∈ opened → started.length = c.readsCounters.toNat) :
    Sampled measure { e with opened := opened } (c.run as) := by
  have reads : (c.run as).readsCounters = c.readsCounters := by
    rw [ThreadProfile.readsCounters, c.declaration_run as, ThreadProfile.readsCounters]
  refine ⟨h.wellFormed.run as, stack, reads ▸ started, reads ▸ h.paired, fun id => ?_, fun id => ?_⟩
  · exact (ThreadProfile.averagesOf_run stays id).trans (h.averages id)
  · have moved := h.wellFormed.entriesOf_run stays id
    have before := h.entries id
    have same : ({ e with opened := opened } : EntryTrace).closedOf id = e.closedOf id := rfl
    rw [same]
    omega

/-- Calls that neither begin nor end an entry. -/
theorem rest (h : Sampled measure e c) {as : List Action} (stays : as.all (! ·.isLeave))
    (stack : (c.run as).stack = c.stack) : Sampled measure e (c.run as) :=
  h.run stays (stack ▸ h.opened) h.started

/-- Calls that begin one entry. -/
theorem push (h : Sampled measure e c) {as : List Action} (stays : as.all (! ·.isLeave))
    {frame : Frame} (stack : (c.run as).stack = frame :: c.stack)
    (started : ∀ slot base, frame = .recorded slot base → base.isSome = c.readsCounters) :
    Sampled measure (e.push frame.entry) (c.run as) := by
  refine h.run stays ?_ fun id taken member => ?_
  · rw [stack, List.map_cons, h.opened]
  · rcases List.mem_cons.mp member with own | old
    · cases frame with
      | suppressed kind => cases own
      | recorded slot base =>
        cases own
        rw [← started _ base rfl]
        cases base <;> rfl
    · exact h.started id taken old

/-- The end of an entry. -/
theorem pop (h : Sampled measure e c) {frame : Frame} {frames : List Frame}
    (hs : c.stack = frame :: frames) {exit : Option Snapshot} (taken : exit.isSome = c.readsCounters)
    (line : Int32) :
    Sampled measure (e.pop exit.toList) (c.act (.leave measure exit line)) := by
  have reads : (c.act (.leave measure exit line)).readsCounters = c.readsCounters := by
    rw [ThreadProfile.readsCounters, c.declaration_act, ThreadProfile.readsCounters]
  have left := c.stack_act_leave hs measure exit line
  have opened := h.opened
  rw [hs, List.map_cons] at opened
  have counted := fun id => h.wellFormed.entriesOf_leave hs measure exit line id
  cases frame with
  | suppressed kind =>
    have popped : e.pop exit.toList = { e with opened := frames.map Frame.entry } := by
      rw [EntryTrace.pop, opened]
      rfl
    rw [popped]
    refine ⟨h.wellFormed.act _, by rw [left], reads ▸ fun id s member => ?_, reads ▸ h.paired,
      fun id => ?_, fun id => ?_⟩
    · exact h.started id s (opened ▸ .tail _ member)
    · exact (ThreadProfile.averagesOf_leave_of_suppressed hs measure exit line id).trans (h.averages id)
    · obtain ⟨same, frames⟩ := counted id
      rw [same, h.entries id, frames]
      rfl
  | recorded slot base =>
    have ended : e.pop exit.toList =
        ⟨frames.map Frame.entry, e.closed ++ [⟨slot, base.toList, exit.toList⟩]⟩ := by
      rw [EntryTrace.pop, opened]
      rfl
    have closedOf (id : RegionId) : (e.pop exit.toList).closedOf id =
        e.closedOf id ++ if slot = id then [⟨slot, base.toList, exit.toList⟩] else [] := by
      rw [ended, EntryTrace.closedOf, List.filter_append, List.filter_cons]
      simp only [beq_iff_eq, List.filter_nil]
      rfl
    have below := h.wellFormed.slot_lt slot base (hs ▸ .head _)
    have named := h.wellFormed.frameId?_recorded below base
    refine ⟨h.wellFormed.act _, by rw [left, ended], reads ▸ fun id s member => ?_,
      reads ▸ fun entry member => ?_, fun id => ?_, fun id => ?_⟩
    · rw [ended] at member
      exact h.started id s (opened ▸ .tail _ member)
    · rw [ended] at member
      rcases List.mem_append.mp member with old | new
      · exact h.paired entry old
      · rw [List.mem_singleton.mp new]
        refine ⟨h.started slot base.toList (opened ▸ .head _), ?_⟩
        rw [← taken]
        cases exit <;> rfl
    · rw [closedOf, h.wellFormed.averagesOf_leave hs measure exit line id, h.averages id,
        List.foldl_append]
      split
      · simp [Averages.addEntry]
      · rfl
    · obtain ⟨same, frames⟩ := counted id
      rw [named] at frames
      rw [closedOf, same, h.entries id, frames, List.length_append]
      simp only [Option.some.injEq]
      split
      · rw [List.length_singleton]
        omega
      · rfl

/-! ### Turns -/

variable {x : Turn}

theorem of_other (h : Sampled measure e c) (made : x.On c) (stop : x.request.operation ≠ .stop)
    (start : x.request.operation ≠ .start ∨ x.request.isRefused = true) :
    Sampled measure (e.step x) (c.run (x.request.actions x.before.terms x.before.nextSnapshot c)) := by
  have same : e.step x = e := by
    refine EntryTrace.step_of_other stop (start.imp id fun refused => ?_) e
    rw [made.result]
    exact Request.answer_of_refused refused ..
  rw [same]
  rcases Request.actions_of_other stop start x.before.terms x.before.nextSnapshot c with
    acts | ⟨line, mask, acts⟩
  · rw [acts]
    exact h
  · rw [acts]
    exact h.rest rfl (c.stack_act_observe line mask)

theorem of_stop (h : Sampled x.before.terms.measure e c) (made : x.On c)
    (stop : x.request.operation = .stop) :
    Sampled x.before.terms.measure (e.step x)
      (c.run (x.request.actions x.before.terms x.before.nextSnapshot c)) := by
  obtain ⟨kindCode, line, read⟩ := Request.read_stop stop
  have result := made.result
  have snapshots := made.snapshots
  simp only [Request.answer, Request.draws, Request.actions, read, Call.answer, Call.draws,
    Call.actions] at result snapshots ⊢
  rw [ThreadProfile.run_cons, ThreadProfile.run]
  cases hs : c.stack with
  | nil =>
    simp only [hs, List.isEmpty_nil, if_true] at result
    have same : e.step x = e := by
      simp only [EntryTrace.step, stop, result]
    rw [same, c.act_leave, hs]
    exact h
  | cons frame frames =>
    simp only [hs, List.isEmpty_cons, Bool.false_eq_true, if_false] at result
    have popped : e.step x =
        e.pop (if c.readsCounters then some x.before.nextSnapshot else none).toList := by
      simp only [EntryTrace.step, stop, result, snapshots]
      cases c.readsCounters <;> rfl
    rw [popped]
    refine h.pop hs ?_ line
    cases c.readsCounters <;> rfl

theorem of_start (h : Sampled measure e c) (made : x.On c) (start : x.request.operation = .start)
    (accepted : x.request.isRefused = false) :
    Sampled measure (e.step x) (c.run (x.request.actions x.before.terms x.before.nextSnapshot c)) := by
  obtain ⟨origin, kindCode, startLine, endLine, task, mask, kind, read, known⟩ :=
    Request.read_start start accepted
  have result := made.result
  have snapshots := made.snapshots
  simp only [Request.answer, Request.draws, Request.actions, read, Call.answer, Call.draws,
    Call.actions, known] at result snapshots ⊢
  cases library : x.before.terms.isLibrary origin with
  | true =>
    simp only [library, if_true] at result ⊢
    have pushed : e.step x = e.push (Frame.suppressed kind).entry := by
      simp only [EntryTrace.step, start, result]
      rfl
    rw [pushed]
    refine h.push rfl rfl fun slot base same => ?_
    cases same
  | false =>
    simp only [library, Bool.false_eq_true, if_false, Bool.not_false, Bool.true_and] at result snapshots ⊢
    -- A snapshot is taken only if the region is recorded, and only then is there an entry to keep it.
    let taken := if c.readsCounters && c.records kind then some x.before.nextSnapshot else none
    let calls := [Action.declareTask task, .enter kind startLine endLine mask taken]
    have pushed {frame : Frame} (stack : (c.run calls).stack = frame :: c.stack)
        (named : frame.entry = ((c.run calls).frameId? frame).map fun id => (id, x.snapshots)) :
        e.step x = e.push frame.entry := by
      simp only [EntryTrace.step, start, result]
      rw [named, ThreadProfile.innermostId?, stack]
      rfl
    rcases (h.wellFormed.act (.declareTask task)).stack_enter kind startLine endLine mask taken with
      ⟨-, stack⟩ | ⟨records, slot, below, stack⟩
    · rw [pushed stack rfl]
      refine h.push rfl stack fun slot base same => ?_
      cases same
    · have records : c.records kind = true := records
      have base : (c.act (.declareTask task)).baseline taken =
          if c.readsCounters then some x.before.nextSnapshot else none := by
        have reads : (c.act (.declareTask task)).readsCounters = c.readsCounters := rfl
        simp only [ThreadProfile.baseline, reads, taken, records, Bool.and_true]
        cases c.readsCounters <;> rfl
      rw [base] at stack
      rw [pushed stack]
      · refine h.push rfl stack fun slot' base' same => ?_
        cases same
        cases c.readsCounters <;> rfl
      · have named := (h.wellFormed.run calls).frameId?_recorded below
          (if c.readsCounters then some x.before.nextSnapshot else none)
        rw [named, snapshots, records, Bool.and_true]
        cases c.readsCounters <;> rfl

theorem turn (h : Sampled x.before.terms.measure e c) (made : x.On c) :
    Sampled x.before.terms.measure (e.step x)
      (c.run (x.request.actions x.before.terms x.before.nextSnapshot c)) := by
  by_cases stop : x.request.operation = .stop
  · exact h.of_stop made stop
  · by_cases start : x.request.operation = .start
    · cases refused : x.request.isRefused with
      | true => exact h.of_other made stop (.inr refused)
      | false => exact h.of_start made start refused
    · exact h.of_other made stop (.inl start)

private theorem exists_pairs {entries : List ClosedEntry} {id : RegionId}
    (paired : ∀ entry ∈ entries,
      entry.region = id ∧ entry.started.length = 1 ∧ entry.stopped.length = 1) :
    ∃ pairs : List (Snapshot × Snapshot), entries = pairs.map fun x => ⟨id, [x.1], [x.2]⟩ := by
  induction entries with
  | nil => exact ⟨[], rfl⟩
  | cons entry entries ih =>
    obtain ⟨pairs, rest⟩ := ih fun other member => paired other (.tail _ member)
    obtain ⟨region, started, stopped⟩ := entry
    obtain ⟨own, first, last⟩ := paired _ (.head _)
    obtain ⟨before, rfl⟩ := List.length_eq_one_iff.mp first
    obtain ⟨after, rfl⟩ := List.length_eq_one_iff.mp last
    exact ⟨(before, after) :: pairs, by rw [rest, ← own]; rfl⟩

private theorem samples_foldl_add (measure : Snapshot → Snapshot → Sample Float)
    (pairs : List (Snapshot × Snapshot)) (a : Averages Float) :
    (pairs.foldl (fun a x => a.add (measure x.1 x.2)) a).samples = a.samples + pairs.length := by
  induction pairs generalizing a with
  | nil => rfl
  | cons x pairs ih =>
    rw [List.foldl_cons, ih, List.length_cons]
    exact Nat.succ_add_eq_add_succ ..

/-- A profile that reads the counters has for each entry that has ended one sample of its two
snapshots. -/
theorem pairs (h : Sampled measure e c) (reads : c.readsCounters = true) {r : Region}
    (member : r ∈ c.regions) :
    ∃ pairs : List (Snapshot × Snapshot),
      e.closedOf r.id = pairs.map (fun x => ⟨r.id, [x.1], [x.2]⟩) ∧
        r.averages = pairs.foldl (fun a x => a.add (measure x.1 x.2)) .empty ∧
          r.averages.samples + c.framesOf r.id = r.entries := by
  obtain ⟨slot, found⟩ := List.mem_iff_getElem?.mp member
  obtain rfl : r.id = slot := h.wellFormed.id_eq slot r found
  have averages := h.averages r.id
  have entries := h.entries r.id
  rw [ThreadProfile.averagesOf, found, Option.map_some, Option.getD_some] at averages
  rw [ThreadProfile.entriesOf, found, Option.map_some, Option.getD_some] at entries
  have paired : ∀ entry ∈ e.closedOf r.id,
      entry.region = r.id ∧ entry.started.length = 1 ∧ entry.stopped.length = 1 := by
    intro entry member
    obtain ⟨member, region⟩ := List.mem_filter.mp member
    have paired := h.paired entry member
    rw [reads] at paired
    exact ⟨beq_iff_eq.mp region, paired⟩
  obtain ⟨pairs, closed⟩ := exists_pairs paired
  rw [closed, List.foldl_map] at averages
  refine ⟨pairs, closed, averages, ?_⟩
  rw [closed, List.length_map] at entries
  have counted : r.averages.samples = pairs.length := by
    rw [averages]
    exact (samples_foldl_add measure pairs .empty).trans (Nat.zero_add _)
  omega

end Sampled

namespace Profiler

variable {s : Settings} {source : Counters.Source} {begun : Moment} {disk : FileTree}
  {w : List (ThreadId × Request)} {t : ThreadId} {c : ThreadProfile}

end Profiler

end SimdProfile

import Mathlib.Data.List.Dedup
import Mathlib.Tactic.Push
import Mathlib.Tactic.SplitIfs
import SimdProfile.Proofs.FileTree

/-!
# Directories and what is in them

A path that leads to a directory leads there whatever is added to the tree, and the names in it are found
below the same location. So what becomes of a name in a directory depends on the name, on the path, and on
whether it is taken. There are at least as many entries as names that are taken.
-/

namespace SimdProfile

namespace FileTree

variable {t after : FileTree} {dir loc : Location} {path : Path} {contents : ByteArray}

/-- A path leads to a directory. -/
structure Opens (t : FileTree) (path : Path) (dir : Location) : Prop where
  leads : t.resolve path = .ok dir
  isDirectory : t.requireDirectory dir = .ok ()

/-- There is something at the end of a path. -/
def Has (t : FileTree) (path : Path) : Prop :=
  ∃ loc, t.resolve path = .ok loc ∧ t.node? loc ≠ none

/-- What is in a directory. -/
def entries (t : FileTree) (dir : Location) : List Location :=
  ((t.nodes.map (·.1)).filter fun loc => loc ≠ [] ∧ loc.dropLast = dir).dedup

theorem Opens.mono (h : t.Opens path dir) (more : t.Extends after) : after.Opens path dir :=
  ⟨more.resolve h.leads, more.requireDirectory h.isDirectory⟩

theorem Has.mono (h : t.Has path) (more : t.Extends after) : after.Has path := by
  obtain ⟨loc, leads, there⟩ := h
  obtain ⟨n, node⟩ := Option.ne_none_iff_exists'.mp there
  exact ⟨loc, more.resolve leads, by simp [more.nodes loc n node]⟩

/-! ### Creating directories -/

theorem foldlM_enter_of_creating (names : List (List UInt8)) {s next : FileTree × Location}
    (entered : names.foldlM enterCreating s = .ok next) :
    names.foldlM next.1.enter s.2 = .ok next.2 := by
  induction names generalizing s with
  | nil =>
    cases entered
    rfl
  | cons name names ih =>
    rw [List.foldlM_cons] at entered
    obtain ⟨middle, step, entered⟩ := exists_of_bind_eq_ok entered
    have more := (furnishes_foldlM_enterCreating names entered).grows
    have first : s.1.enter s.2 name = .ok middle.2 ∧ s.1.Extends middle.1 := by
      refine ⟨?_, (furnishes_enterCreating step).grows⟩
      obtain ⟨loc, leads, step⟩ := exists_of_bind_eq_ok step
      rw [leads]
      cases empty : s.1.node? loc with
      | some node =>
        rw [empty] at step
        cases step
        rfl
      | none =>
        rw [empty] at step
        obtain ⟨made, -, step⟩ := exists_of_bind_eq_ok step
        cases step
        rfl
    rw [List.foldlM_cons, (first.2.trans more).enter first.1]
    exact ih entered

/-- A directory that was created is there. -/
theorem opens_createDirectories (created : t.createDirectories path = .ok after) :
    ∃ dir, after.Opens path dir := by
  obtain ⟨names, dir, named, entered, found⟩ := createDirectories_eq created
  have origin : after.origin path = t.origin path := by
    rw [origin, origin, (furnishes_createDirectories created).working]
  refine ⟨dir, ?_, found⟩
  rw [resolve, named, origin]
  exact foldlM_enter_of_creating names entered

theorem foldlM_enterCreating_of_enter (names : List (List UInt8)) {start : Location}
    (leads : names.foldlM t.enter start = .ok dir) (found : t.requireDirectory dir = .ok ()) :
    names.foldlM enterCreating (t, start) = .ok (t, dir) := by
  induction names generalizing start with
  | nil =>
    cases leads
    rfl
  | cons name names ih =>
    rw [List.foldlM_cons] at leads ⊢
    obtain ⟨middle, step, leads⟩ := exists_of_bind_eq_ok leads
    -- A later name is looked for in `middle`, and the last location is a directory.
    have there : t.requireDirectory middle = .ok () := by
      cases names with
      | nil =>
        cases leads
        exact found
      | cons name' names =>
        rw [List.foldlM_cons] at leads
        obtain ⟨_, step', -⟩ := exists_of_bind_eq_ok leads
        obtain ⟨⟨⟩, there, -⟩ := exists_of_bind_eq_ok step'
        exact there
    have entered : enterCreating (t, start) name = .ok (t, middle) := by
      unfold enterCreating
      rw [step]
      cases node : t.node? middle with
      | none => simp [requireDirectory, node] at there
      | some n => simp only [bind, Except.bind, node]
    rw [entered]
    exact ih leads

/-- To create a directory that is there changes nothing. -/
theorem Opens.createDirectories_eq (h : t.Opens path dir) : t.createDirectories path = .ok t := by
  obtain ⟨names, named, leads⟩ := exists_of_bind_eq_ok h.leads
  rw [createDirectories, named]
  simp only [bind, Except.bind, foldlM_enterCreating_of_enter names leads h.isDirectory,
    h.isDirectory]

/-! ### Names in a directory -/

/-- Where a name in a directory leads, by a path that is made of both. -/
def child (dir : Location) (path : Path) (name : List UInt8) : Except IoFault Location :=
  if path.bytes.contains 0 then .error .invalidName
  else if maxPathBytes < path.bytes.length then .error .nameTooLong
  else if maxNameBytes < name.length then .error .nameTooLong
  else .ok (dir ++ [name])

theorem namesOf_eq {names : List (List UInt8)} (named : namesOf path = .ok names) :
    path.bytes ≠ [] ∧ names = path.bytes.splitOn Path.separator := by
  unfold namesOf at named
  split_ifs at named with empty
  cases named
  exact ⟨fun none => empty (List.isEmpty_iff.mpr none), rfl⟩

variable {q : Path}

theorem isAbsolute_of_single (single : Path.separator ∉ q.bytes) : q.isAbsolute = false := by
  unfold Path.isAbsolute
  cases found : q.bytes with
  | nil => rfl
  | cons b rest =>
    rw [found] at single
    have differs : b ≠ Path.separator := fun same => single (same ▸ List.mem_cons_self)
    simp [differs]

/-- Single names that are joined to one path are told apart. -/
theorem eq_of_join_eq {q' : Path} (single : Path.separator ∉ q.bytes)
    (single' : Path.separator ∉ q'.bytes) (same : path.join q = path.join q') : q = q' := by
  unfold Path.join at same
  rw [isAbsolute_of_single single, isAbsolute_of_single single'] at same
  simp only [Bool.false_or] at same
  split_ifs at same
  · exact same
  · exact congrArg Path.mk (List.append_cancel_left (Path.mk.inj same))
  · have bytes := List.append_cancel_left (Path.mk.inj same)
    exact congrArg Path.mk (List.cons.inj bytes).2

/-- A single name is the last one of the path it is joined to. -/
theorem Opens.names_join (h : t.Opens path dir) (single : Path.separator ∉ q.bytes) :
    (path.join q).bytes ≠ [] ∧ (path.join q).isAbsolute = path.isAbsolute ∧
      ∃ names, (path.join q).bytes.splitOn Path.separator = names ++ [q.bytes] ∧
        names.foldlM t.enter (t.origin path) = .ok dir := by
  obtain ⟨names, named, leads⟩ := exists_of_bind_eq_ok h.leads
  obtain ⟨nonempty, rfl⟩ := namesOf_eq named
  obtain ⟨first, rest, spelled⟩ := List.exists_cons_of_ne_nil nonempty
  have relative := isAbsolute_of_single single
  by_cases closed : path.bytes.getLast? = some Path.separator
  · -- The path ends in a slash, so its last name is empty and stays where it is.
    have joined : (path.join q).bytes = path.bytes ++ q.bytes := by
      simp [Path.join, relative, nonempty, closed]
    obtain ⟨before, ends⟩ := List.getLast?_eq_some_iff.mp closed
    refine ⟨by simp [joined, nonempty], by simp [Path.isAbsolute, joined, spelled],
      before.splitOn Path.separator, ?_, ?_⟩
    · rw [joined, ends, List.append_assoc, List.singleton_append, List.splitOn_append_cons_self,
        List.splitOn_eq_singleton single]
    · rw [ends, List.splitOn_append_cons_self, List.splitOn_nil, List.foldlM_append] at leads
      obtain ⟨middle, steps, leads⟩ := exists_of_bind_eq_ok leads
      obtain ⟨next, step, leads⟩ := exists_of_bind_eq_ok leads
      obtain ⟨⟨⟩, -, step⟩ := exists_of_bind_eq_ok step
      cases step
      cases leads
      exact steps
  · have joined : (path.join q).bytes = path.bytes ++ Path.separator :: q.bytes := by
      simp [Path.join, relative, nonempty, closed]
    refine ⟨by simp [joined], by simp [Path.isAbsolute, joined, spelled],
      path.bytes.splitOn Path.separator, ?_, leads⟩
    rw [joined, List.splitOn_append_cons_self, List.splitOn_eq_singleton single]

/-- In a directory a name leads where name and path say, whatever else is in the tree. -/
theorem Opens.resolve_join (h : t.Opens path dir) (single : Path.separator ∉ q.bytes)
    (proper : 2 < q.bytes.length) : t.resolve (path.join q) = child dir (path.join q) q.bytes := by
  obtain ⟨nonempty, absolute, names, split, leads⟩ := h.names_join single
  have origin : t.origin (path.join q) = t.origin path := by
    rw [FileTree.origin, FileTree.origin, absolute]
  have last : t.enter dir q.bytes =
      if maxNameBytes < q.bytes.length then .error .nameTooLong else .ok (dir ++ [q.bytes]) := by
    have plain : ¬ (q.bytes = [] ∨ q.bytes = [dot]) ∧ q.bytes ≠ [dot, dot] := by
      refine ⟨?_, ?_⟩
      · rintro (same | same) <;> simp [same] at proper
      · intro same
        simp [same] at proper
    rw [enter, h.isDirectory]
    simp only [bind, Except.bind, if_neg plain.1, if_neg plain.2]
  have walk : (names ++ [q.bytes]).foldlM t.enter (t.origin path) = t.enter dir q.bytes := by
    rw [List.foldlM_append, leads]
    show t.enter dir q.bytes >>= pure = _
    exact bind_pure _
  rw [resolve, namesOf, origin, split, child]
  have nonempty' : (path.join q).bytes.isEmpty = false := List.isEmpty_eq_false_iff.mpr nonempty
  simp only [nonempty', Bool.false_eq_true, if_false]
  split_ifs with nul long tall
  · rfl
  · rfl
  · exact walk.trans (last.trans (if_pos tall))
  · exact walk.trans (last.trans (if_neg tall))

/-! ### Creating files -/

theorem enter_ne_taken (t : FileTree) (loc : Location) (name : List UInt8) :
    t.enter loc name ≠ .error .alreadyExists := by
  unfold enter requireDirectory
  cases t.node? loc with
  | none => nofun
  | some n =>
    cases n with
    | file contents => nofun
    | directory isSealed =>
      simp only [bind, Except.bind]
      split_ifs <;> nofun

theorem resolve_ne_taken (t : FileTree) (path : Path) : t.resolve path ≠ .error .alreadyExists := by
  have walk (names : List (List UInt8)) (start : Location) :
      names.foldlM t.enter start ≠ .error .alreadyExists := by
    induction names generalizing start with
    | nil => nofun
    | cons name names ih =>
      rw [List.foldlM_cons]
      cases step : t.enter start name with
      | error fault =>
        intro same
        exact t.enter_ne_taken start name (step.trans same)
      | ok next => exact ih next
  unfold resolve
  cases named : namesOf path with
  | error fault =>
    intro same
    cases same
    unfold namesOf at named
    split_ifs at named <;> cases named
  | ok names => exact walk names _

/-- To create a file fails for its name being taken exactly if there is something already. -/
theorem createNew_taken_iff : t.createNew path contents = .error .alreadyExists ↔ t.Has path := by
  constructor
  · intro refused
    unfold createNew at refused
    cases leads : t.resolve path with
    | error fault =>
      rw [leads] at refused
      have taken : fault = .alreadyExists := Except.error.inj refused
      exact absurd (taken ▸ leads) (t.resolve_ne_taken path)
    | ok loc =>
      refine ⟨loc, leads, fun empty => ?_⟩
      rw [leads] at refused
      simp only [bind, Except.bind, empty, place] at refused
      split at refused <;> cases refused
  · rintro ⟨loc, leads, there⟩
    obtain ⟨n, node⟩ := Option.ne_none_iff_exists'.mp there
    simp only [createNew, leads, bind, Except.bind, node]

/-- Whether there is a directory that nothing can be created in. -/
def isSealed (t : FileTree) (loc : Location) : Bool :=
  match t.node? loc with
  | some (.directory isSealed) => isSealed
  | _ => false

theorem place_eq_if (t : FileTree) (loc : Location) (n : FileNode) :
    t.place loc n =
      if t.isSealed loc.dropLast then .error .permissionDenied else .ok (t.insert loc n) := by
  unfold place
  split
  · next around =>
    rw [isSealed, around]
    rfl
  · next unsealed =>
    have admits : t.isSealed loc.dropLast = false := by
      unfold isSealed
      split
      · next sealing around =>
        cases sealing with
        | false => rfl
        | true => exact absurd around unsealed
      · rfl
    rw [admits]
    rfl

/-- Where nothing is a file can be created, unless the directory is sealed. -/
theorem createNew_of_free (leads : t.resolve path = .ok loc) (empty : t.node? loc = none) :
    t.createNew path contents =
      if t.isSealed loc.dropLast then .error .permissionDenied
      else .ok (t.insert loc (.file contents)) := by
  simp only [createNew, leads, bind, Except.bind, empty, place_eq_if]

/-! ### Entries -/

theorem mem_entries {name : List UInt8} (there : t.node? (dir ++ [name]) ≠ none) :
    dir ++ [name] ∈ t.entries dir := by
  have proper : dir ++ [name] ≠ [] := by simp
  rw [node?, if_neg proper, Ne, List.lookup_eq_none_iff] at there
  push Not at there
  obtain ⟨entry, member, same⟩ := there
  have same : dir ++ [name] = entry.1 := by simpa using same
  rw [entries, List.mem_dedup, List.mem_filter]
  refine ⟨same ▸ List.mem_map_of_mem member, ?_⟩
  simp

end FileTree

end SimdProfile

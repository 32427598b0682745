import SimdProfile.FileTree

/-!
# What file trees keep

What is put at a free location takes nothing away: a path that led somewhere leads there still, and what
stood there stands there with the same contents. Files are created where nothing was, and of directories
only those that are missing.
-/

namespace SimdProfile

theorem exists_of_bind_eq_ok {ε α β : Type} {x : Except ε α} {f : α → Except ε β} {b : β}
    (h : x >>= f = .ok b) : ∃ a, x = .ok a ∧ f a = .ok b := by
  cases x with
  | error e => cases h
  | ok a => exact ⟨a, rfl, h⟩

namespace FileTree

variable {t after : FileTree} {loc : Location} {path : Path} {contents : ByteArray}

/-- Everything is still where it was, and there may be more. -/
structure Extends (t after : FileTree) : Prop where
  working : after.working = t.working
  nodes : ∀ loc n, t.node? loc = some n → after.node? loc = some n

/-- What is new is a directory. -/
structure Furnishes (t after : FileTree) : Prop where
  working : after.working = t.working
  nodes : ∀ loc, after.node? loc = t.node? loc ∨
    t.node? loc = none ∧ after.node? loc = some (.directory false)

/-- Every file is still there with the same contents. -/
def Keeps (t after : FileTree) : Prop :=
  ∀ path contents, t.read path = .ok contents → after.read path = .ok contents

/-- The files are those there were. -/
def SameFiles (t after : FileTree) : Prop :=
  ∀ loc contents, after.node? loc = some (.file contents) ↔ t.node? loc = some (.file contents)

/-- One file is new, at the end of a path where nothing was, and the others are those there were. -/
def Gains (t after : FileTree) (path : Path) (contents : ByteArray) : Prop :=
  ∃ loc, after.resolve path = .ok loc ∧ t.node? loc = none ∧
    ∀ other found, after.node? other = some (.file found) ↔
      other = loc ∧ found = contents ∨ t.node? other = some (.file found)

namespace Extends

theorem refl (t : FileTree) : t.Extends t := ⟨rfl, fun _ _ found => found⟩

theorem trans {middle : FileTree} (first : t.Extends middle) (second : middle.Extends after) :
    t.Extends after :=
  ⟨second.working.trans first.working, fun loc n found => second.nodes loc n (first.nodes loc n found)⟩

/-- What is put at a free location takes nothing away. -/
theorem insert (empty : t.node? loc = none) (n : FileNode) : t.Extends (t.insert loc n) := by
  refine ⟨rfl, fun other m found => ?_⟩
  have differs : other ≠ loc := by
    rintro rfl
    simp [empty] at found
  rw [t.node?_insert_of_ne differs, found]

/-- A directory stays one. -/
theorem requireDirectory (h : t.Extends after) (found : t.requireDirectory loc = .ok ()) :
    after.requireDirectory loc = .ok () := by
  unfold FileTree.requireDirectory at found ⊢
  cases node : t.node? loc with
  | none => simp [node] at found
  | some n =>
    rw [h.nodes loc n node]
    rwa [node] at found

/-- A step that leads somewhere leads there still. -/
theorem enter (h : t.Extends after) {name : List UInt8} {next : Location}
    (leads : t.enter loc name = .ok next) : after.enter loc name = .ok next := by
  obtain ⟨⟨⟩, found, leads⟩ := exists_of_bind_eq_ok leads
  rw [FileTree.enter, h.requireDirectory found]
  exact leads

theorem foldlM_enter (h : t.Extends after) (names : List (List UInt8)) {start next : Location}
    (leads : names.foldlM t.enter start = .ok next) : names.foldlM after.enter start = .ok next := by
  induction names generalizing start with
  | nil => exact leads
  | cons name names ih =>
    rw [List.foldlM_cons] at leads ⊢
    obtain ⟨middle, step, leads⟩ := exists_of_bind_eq_ok leads
    rw [h.enter step]
    exact ih leads

/-- A path leads where it led. -/
theorem resolve (h : t.Extends after) (leads : t.resolve path = .ok loc) :
    after.resolve path = .ok loc := by
  obtain ⟨names, named, leads⟩ := exists_of_bind_eq_ok leads
  have origin : after.origin path = t.origin path := by
    rw [FileTree.origin, FileTree.origin, h.working]
  rw [FileTree.resolve, named, origin]
  exact h.foldlM_enter names leads

theorem keeps (h : t.Extends after) : t.Keeps after := by
  intro path contents found
  obtain ⟨loc, leads, found⟩ := exists_of_bind_eq_ok found
  rw [read, h.resolve leads]
  cases node : t.node? loc with
  | none => simp [node] at found
  | some n =>
    simp only [bind, Except.bind, h.nodes loc n node]
    rwa [node] at found

end Extends

namespace Furnishes

theorem refl (t : FileTree) : t.Furnishes t := ⟨rfl, fun _ => .inl rfl⟩

theorem trans {middle : FileTree} (first : t.Furnishes middle) (second : middle.Furnishes after) :
    t.Furnishes after := by
  refine ⟨second.working.trans first.working, fun loc => ?_⟩
  rcases second.nodes loc with same | ⟨empty, made⟩
  · rw [same]
    exact first.nodes loc
  · rcases first.nodes loc with same | ⟨-, made'⟩
    · exact .inr ⟨same ▸ empty, made⟩
    · simp [empty] at made'

theorem grows (h : t.Furnishes after) : t.Extends after := by
  refine ⟨h.working, fun loc n found => ?_⟩
  rcases h.nodes loc with same | ⟨empty, -⟩
  · rw [same, found]
  · simp [empty] at found

theorem sameFiles (h : t.Furnishes after) : t.SameFiles after := by
  intro loc contents
  rcases h.nodes loc with same | ⟨empty, made⟩
  · rw [same]
  · simp [empty, made]

end Furnishes

theorem place_eq {n : FileNode} (placed : t.place loc n = .ok after) : after = t.insert loc n := by
  unfold place at placed
  split at placed
  · cases placed
  · exact (Except.ok.inj placed).symm

/-- The root is always there. -/
theorem ne_nil_of_node? (empty : t.node? loc = none) : loc ≠ [] := by
  rintro rfl
  simp [node?] at empty

theorem createNew_eq (created : t.createNew path contents = .ok after) :
    ∃ loc, t.resolve path = .ok loc ∧ t.node? loc = none ∧ after = t.insert loc (.file contents) := by
  obtain ⟨loc, leads, created⟩ := exists_of_bind_eq_ok created
  cases empty : t.node? loc with
  | some node => simp [empty] at created
  | none => exact ⟨loc, leads, empty, place_eq (by simpa [empty] using created)⟩

theorem extends_createNew (created : t.createNew path contents = .ok after) : t.Extends after := by
  obtain ⟨loc, -, empty, rfl⟩ := createNew_eq created
  exact .insert empty _

/-- To create a file, and directories before it, leaves one new file. -/
theorem Furnishes.gains {middle : FileTree} (h : t.Furnishes middle)
    (created : middle.createNew path contents = .ok after) : t.Gains after path contents := by
  obtain ⟨loc, leads, empty, rfl⟩ := createNew_eq created
  have before : t.node? loc = none := by
    rcases h.nodes loc with same | ⟨before, -⟩
    · rw [← same, empty]
    · exact before
  refine ⟨loc, (Extends.insert empty _).resolve leads, before, fun other found => ?_⟩
  by_cases here : other = loc
  · rw [here, middle.node?_insert_self (ne_nil_of_node? empty), before]
    simp [eq_comm]
  · rw [middle.node?_insert_of_ne here, h.sameFiles]
    simp [here]

/-- A file that was created holds what it was created with. -/
theorem read_of_createNew (created : t.createNew path contents = .ok after) :
    after.read path = .ok contents := by
  obtain ⟨loc, leads, empty, rfl⟩ := createNew_eq created
  rw [read, (Extends.insert empty _).resolve leads]
  simp only [bind, Except.bind, t.node?_insert_self (ne_nil_of_node? empty)]

theorem furnishes_enterCreating {s next : FileTree × Location} {name : List UInt8}
    (entered : enterCreating s name = .ok next) : s.1.Furnishes next.1 := by
  obtain ⟨loc, -, entered⟩ := exists_of_bind_eq_ok entered
  cases empty : s.1.node? loc with
  | some node =>
    rw [empty] at entered
    cases entered
    exact .refl _
  | none =>
    rw [empty] at entered
    obtain ⟨made, placed, entered⟩ := exists_of_bind_eq_ok entered
    cases entered
    refine ⟨by rw [place_eq placed]; rfl, fun other => ?_⟩
    rw [place_eq placed]
    by_cases same : other = loc
    · rw [same, s.1.node?_insert_self (ne_nil_of_node? empty)]
      exact .inr ⟨empty, rfl⟩
    · exact .inl (s.1.node?_insert_of_ne same _)

theorem furnishes_foldlM_enterCreating (names : List (List UInt8)) {s next : FileTree × Location}
    (entered : names.foldlM enterCreating s = .ok next) : s.1.Furnishes next.1 := by
  induction names generalizing s with
  | nil =>
    cases entered
    exact .refl _
  | cons name names ih =>
    rw [List.foldlM_cons] at entered
    obtain ⟨middle, step, entered⟩ := exists_of_bind_eq_ok entered
    exact (furnishes_enterCreating step).trans (ih entered)

theorem createDirectories_eq (created : t.createDirectories path = .ok after) :
    ∃ names loc, namesOf path = .ok names ∧
      names.foldlM enterCreating (t, t.origin path) = .ok (after, loc) ∧
        after.requireDirectory loc = .ok () := by
  obtain ⟨names, named, created⟩ := exists_of_bind_eq_ok created
  obtain ⟨⟨made, loc⟩, entered, created⟩ := exists_of_bind_eq_ok created
  obtain ⟨⟨⟩, found, created⟩ := exists_of_bind_eq_ok created
  cases created
  exact ⟨names, loc, named, entered, found⟩

theorem furnishes_createDirectories (created : t.createDirectories path = .ok after) :
    t.Furnishes after := by
  obtain ⟨names, loc, -, entered, -⟩ := createDirectories_eq created
  exact furnishes_foldlM_enterCreating names entered

end FileTree

end SimdProfile

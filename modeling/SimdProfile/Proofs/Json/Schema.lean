import Mathlib.Data.List.Basic
import SimdProfile.Proofs.Json.Fields

/-!
# What readers of records notice

A schema says what a reader looks at in a value. Some changes leave all of that as it is: members in
another order, members that the record does not know, and such changes further inside. Others break the
value: a member that is needed is missing, or a known one is given twice. A reader that is governed by a
schema does not notice the former and refuses the latter (`Governs`). To show it of a reader of records is
to name its fields one by one (`Assembles`).
-/

namespace SimdProfile.Json

/-! ### Members -/

/-- How often a name is given among members. -/
def given (name : String) (ms : List (Literal × Json)) : Nat :=
  ms.countP (·.1 == .text name)

/-- Whether all names of members are texts. -/
def named (ms : List (Literal × Json)) : Bool :=
  ms.all fun m => m.1.text?.isSome

section Insert

variable {before after : List (Literal × Json)} {name other : String} {w : Json}

theorem named_insert (before after : List (Literal × Json)) (other : String) (w : Json) :
    named (before ++ (.text other, w) :: after) = named (before ++ after) := by
  simp [named, Literal.text?]

theorem given_insert (name other : String) (before after : List (Literal × Json)) (w : Json) :
    given name (before ++ (.text other, w) :: after) =
      given name (before ++ after) + if other = name then 1 else 0 := by
  simp only [given, List.countP_append, List.countP_cons, beq_iff_eq, Literal.text.injEq]
  omega

theorem lookup_insert_of_ne (differs : other ≠ name) :
    (before ++ (.text other, w) :: after).lookup (.text name) =
      (before ++ after).lookup (.text name) := by
  have apart : (Literal.text name == .text other) = false := by simp [differs.symm]
  rw [List.lookup_append, List.lookup_append, List.lookup_cons, apart]

end Insert

/-! ### Schemas -/

/-- What a reader looks at: a value as a whole, the elements of an array, which are all alike, or the
members of a record that have one of its names. The optional ones need not be given. -/
inductive Schema where
  | value
  | list (element : Schema)
  | record (names optional : List String) (field : String → Schema)

namespace Schema

variable {s : Schema} {names optional : List String} {field : String → Schema} {v w : Json}

/-- A change of one place that is not to be noticed. -/
inductive Neutral : Schema → Json → Json → Prop where
  /-- The members of a record in another order. -/
  | permute {names optional : List String} {field : String → Schema}
      {ms ms' : List (Literal × Json)} (order : ms.Perm ms') :
      Neutral (.record names optional field) (.object ms) (.object ms')
  /-- One more member of a record, with a name it does not know. A name is a text: half of a surrogate pair
  is none, and no reader of records takes it for a name. -/
  | insert {names optional : List String} {field : String → Schema}
      {before after : List (Literal × Json)} {name : String} {w : Json} (unknown : name ∉ names) :
      Neutral (.record names optional field) (.object (before ++ after))
        (.object (before ++ (.text name, w) :: after))
  /-- Another value of a member that a record does not know. -/
  | replace {names optional : List String} {field : String → Schema}
      {before after : List (Literal × Json)} {name : String} {v w : Json} (unknown : name ∉ names) :
      Neutral (.record names optional field) (.object (before ++ (.text name, v) :: after))
        (.object (before ++ (.text name, w) :: after))
  /-- A change inside a member. -/
  | member {names optional : List String} {field : String → Schema}
      {before after : List (Literal × Json)} {name : String} {v w : Json}
      (inside : Neutral (field name) v w) :
      Neutral (.record names optional field) (.object (before ++ (.text name, v) :: after))
        (.object (before ++ (.text name, w) :: after))
  /-- A change inside an element. -/
  | element {s : Schema} {before after : List Json} {v w : Json} (inside : Neutral s v w) :
      Neutral (.list s) (.array (before ++ v :: after)) (.array (before ++ w :: after))

/-- Somewhere a needed member is missing or a known one is given more than once. -/
inductive Broken : Schema → Json → Prop where
  | missing {names optional : List String} {field : String → Schema}
      {ms : List (Literal × Json)} {name : String} (known : name ∈ names)
      (needed : name ∉ optional) (absent : given name ms = 0) :
      Broken (.record names optional field) (.object ms)
  | repeated {names optional : List String} {field : String → Schema}
      {ms : List (Literal × Json)} {name : String} (known : name ∈ names)
      (twice : 2 ≤ given name ms) : Broken (.record names optional field) (.object ms)
  | member {names optional : List String} {field : String → Schema}
      {ms : List (Literal × Json)} {name : String} {v : Json}
      (known : name ∈ names) (here : (.text name, v) ∈ ms) (inside : Broken (field name) v) :
      Broken (.record names optional field) (.object ms)
  | element {s : Schema} {vs : List Json} {v : Json} (here : v ∈ vs) (inside : Broken s v) :
      Broken (.list s) (.array vs)

/-- A change of one place that drops a needed member or repeats a known one, with any value. -/
inductive Spoils : Schema → Json → Json → Prop where
  | drop {names optional : List String} {field : String → Schema}
      {before after : List (Literal × Json)} {name : String} {v : Json}
      (known : name ∈ names) (needed : name ∉ optional) :
      Spoils (.record names optional field) (.object (before ++ (.text name, v) :: after))
        (.object (before ++ after))
  | repeat {names optional : List String} {field : String → Schema}
      {before after : List (Literal × Json)} {name : String} {w : Json}
      (known : name ∈ names) (once : 1 ≤ given name (before ++ after)) :
      Spoils (.record names optional field) (.object (before ++ after))
        (.object (before ++ (.text name, w) :: after))
  | member {names optional : List String} {field : String → Schema}
      {before after : List (Literal × Json)} {name : String} {v w : Json}
      (known : name ∈ names) (inside : Spoils (field name) v w) :
      Spoils (.record names optional field) (.object (before ++ (.text name, v) :: after))
        (.object (before ++ (.text name, w) :: after))
  | element {s : Schema} {before after : List Json} {v w : Json} (inside : Spoils s v w) :
      Spoils (.list s) (.array (before ++ v :: after)) (.array (before ++ w :: after))

/-- To spoil a value that is not broken is to break it. -/
theorem Spoils.broken (spoils : s.Spoils v w) (whole : ¬ s.Broken v) : s.Broken w := by
  induction spoils with
  | @drop _ _ _ before after name v known needed =>
    refine .missing known needed ?_
    by_contra still
    refine whole (.repeated known ?_)
    rw [given_insert, if_pos rfl]
    omega
  | @«repeat» _ _ _ before after name w known once =>
    refine .repeated known ?_
    rw [given_insert, if_pos rfl]
    omega
  | member known _ ih =>
    have inside := ih fun broken =>
      whole (.member known (List.mem_append_right _ List.mem_cons_self) broken)
    exact .member known (List.mem_append_right _ List.mem_cons_self) inside
  | element _ ih =>
    have inside := ih fun broken => whole (.element (List.mem_append_right _ List.mem_cons_self) broken)
    exact .element (List.mem_append_right _ List.mem_cons_self) inside

end Schema

/-! ### Fields of records -/

section Fields

variable {name : String} {names : List String} {ms ms' : List (Literal × Json)} {x : Json}

/-- The members with a text as their name that a record knows. -/
def knownMembers (names : List String) (ms : List (Literal × Json)) : List (String × Json) :=
  (ms.filterMap fun m => m.1.text?.map (·, m.2)).filter (names.contains ·.1)

theorem knownMembers_cons_text (known : name ∈ names) :
    knownMembers names ((.text name, x) :: ms) = (name, x) :: knownMembers names ms := by
  simp [knownMembers, Literal.text?, known]

theorem knownMembers_cons_of_unknown (unknown : name ∉ names) :
    knownMembers names ((.text name, x) :: ms) = knownMembers names ms := by
  simp [knownMembers, Literal.text?, unknown]

theorem knownMembers_cons_unpaired :
    knownMembers names ((.unpaired, x) :: ms) = knownMembers names ms := by
  simp [knownMembers, Literal.text?]

theorem count_knownMembers (known : name ∈ names) :
    ((knownMembers names ms).map (·.1)).count name = given name ms := by
  induction ms with
  | nil => rfl
  | cons m ms ih =>
    rcases m with ⟨⟨other⟩ | _, x⟩
    · by_cases member : other ∈ names
      · simp only [knownMembers_cons_text member, List.map_cons, List.count_cons, ih, given,
          List.countP_cons, beq_iff_eq, Literal.text.injEq]
      · have differs : other ≠ name := by
          rintro rfl
          exact member known
        simp only [knownMembers_cons_of_unknown member, ih, given, List.countP_cons, beq_iff_eq,
          Literal.text.injEq, differs, if_false, Nat.add_zero]
    · simp [knownMembers_cons_unpaired, ih, given]

theorem lookup_knownMembers (known : name ∈ names) :
    (knownMembers names ms).lookup name = ms.lookup (.text name) := by
  have beq_text (other : String) : (Literal.text name == .text other) = (name == other) := by
    rw [Bool.eq_iff_iff, beq_iff_eq, beq_iff_eq, Literal.text.injEq]
  have beq_unpaired : (Literal.text name == .unpaired) = false := by simp
  induction ms with
  | nil => rfl
  | cons m ms ih =>
    rcases m with ⟨⟨other⟩ | _, x⟩
    · rw [List.lookup_cons, beq_text]
      by_cases member : other ∈ names
      · rw [knownMembers_cons_text member, List.lookup_cons, ih]
      · have differs : (name == other) = false := by
          rw [beq_eq_false_iff_ne]
          rintro rfl
          exact member known
        rw [knownMembers_cons_of_unknown member, ih, differs]
    · rw [knownMembers_cons_unpaired, List.lookup_cons, beq_unpaired, ih]

theorem nodup_knownMembers :
    ((knownMembers names ms).map (·.1)).Nodup ↔ ∀ name ∈ names, given name ms ≤ 1 := by
  rw [List.nodup_iff_count_le_one]
  constructor
  · intro few name known
    rw [← count_knownMembers known]
    exact few name
  · intro few name
    by_cases known : name ∈ names
    · rw [count_knownMembers known]
      exact few name known
    · rw [List.count_eq_zero_of_not_mem]
      · omega
      · intro member
        obtain ⟨m, here, rfl⟩ := List.mem_map.mp member
        exact known (by simpa using (List.mem_filter.mp here).2)

theorem mapM_eq_ite {α β : Type} (f : β → Option α) (l : List β) :
    l.mapM f = if l.all fun x => (f x).isSome then some (l.filterMap f) else none := by
  induction l with
  | nil => rfl
  | cons x l ih =>
    rw [List.mapM_cons, ih]
    cases head : f x <;> cases tail : l.all fun x => (f x).isSome <;> simp [head, tail]

/-- The fields of an object, if all its names are texts and none that is known is given twice. -/
theorem fields?_object : fields? names (.object ms) =
    if named ms ∧ ∀ name ∈ names, given name ms ≤ 1 then some (knownMembers names ms) else none := by
  rw [fields?, mapM_eq_ite]
  simp only [Option.isSome_map, ← nodup_knownMembers]
  cases texts : named ms
  · simp only [named] at texts
    simp [texts]
  · simp only [named] at texts
    simp only [texts, if_true, true_and]
    rfl

theorem given_eq_zero_iff : given name ms = 0 ↔ ms.lookup (.text name) = none := by
  rw [given, List.countP_eq_zero, List.lookup_eq_none_iff]
  simp only [beq_iff_eq, bne_iff_ne]
  exact forall₂_congr fun m _ => not_congr eq_comm

/-- A name that is given once stands for its member. -/
theorem lookup_eq_some_iff (once : given name ms ≤ 1) :
    ms.lookup (.text name) = some x ↔ (.text name, x) ∈ ms := by
  induction ms with
  | nil => simp
  | cons m ms ih =>
    obtain ⟨key, y⟩ := m
    by_cases same : key = .text name
    · subst same
      have absent : given name ms = 0 := by
        simp only [given, List.countP_cons, beq_self_eq_true, if_true] at once ⊢
        omega
      have other : (Literal.text name, x) ∉ ms := by
        intro member
        rw [given, List.countP_eq_zero] at absent
        exact absent _ member (beq_self_eq_true _)
      simp [other, eq_comm]
    · have differs : (Literal.text name == key) = false := beq_false_of_ne (Ne.symm same)
      have once : given name ms ≤ 1 := by
        simpa [given, List.countP_cons, same] using once
      rw [List.lookup_cons, differs, List.mem_cons, Prod.mk.injEq]
      simp [ih once, Ne.symm same]

theorem required?_of_same {α : Type} {fields fields' : List (String × Json)} {read? : Json → Option α}
    {y : α} (same : fields'.lookup name = fields.lookup name)
    (found : required? fields name read? = some y) : required? fields' name read? = some y := by
  rw [required?, same]
  exact found

section Changes

variable {before after : List (Literal × Json)} {fields : List (String × Json)} {v : Json}

/-- With another value of a field, all other fields are as they were. -/
theorem fields?_of_changed (known : name ∈ names)
    (read : fields? names (.object (before ++ (.text name, v) :: after)) = some fields) (w : Json) :
    ∃ fields', fields? names (.object (before ++ (.text name, w) :: after)) = some fields' ∧
      (∀ other ∈ names, other ≠ name → fields'.lookup other = fields.lookup other) ∧
      fields.lookup name = some v ∧ fields'.lookup name = some w := by
  rw [fields?_object] at read
  split at read
  · next once =>
    cases read
    have once' : named (before ++ (.text name, w) :: after) ∧
        ∀ other ∈ names, given other (before ++ (.text name, w) :: after) ≤ 1 := by
      simpa only [named_insert, given_insert] using once
    refine ⟨_, by rw [fields?_object, if_pos once'], ?_, ?_, ?_⟩
    · intro other member differs
      rw [lookup_knownMembers member, lookup_knownMembers member, lookup_insert_of_ne differs.symm,
        lookup_insert_of_ne differs.symm]
    · rw [lookup_knownMembers known, lookup_eq_some_iff (once.2 name known)]
      exact List.mem_append_right _ List.mem_cons_self
    · rw [lookup_knownMembers known, lookup_eq_some_iff (once'.2 name known)]
      exact List.mem_append_right _ List.mem_cons_self
  · cases read

/-- Without a field, all other fields are as they were. -/
theorem fields?_of_dropped (known : name ∈ names)
    (read : fields? names (.object (before ++ (.text name, v) :: after)) = some fields) :
    ∃ fields', fields? names (.object (before ++ after)) = some fields' ∧
      (∀ other ∈ names, other ≠ name → fields'.lookup other = fields.lookup other) ∧
      fields'.lookup name = none := by
  rw [fields?_object] at read
  split at read
  · next once =>
    cases read
    simp only [named_insert, given_insert] at once
    have few : ∀ other ∈ names, given other (before ++ after) ≤ 1 := fun other member => by
      have := once.2 other member
      omega
    have absent : given name (before ++ after) = 0 := by
      have := once.2 name known
      rw [if_pos rfl] at this
      omega
    refine ⟨_, by rw [fields?_object, if_pos ⟨once.1, few⟩], ?_, ?_⟩
    · intro other member differs
      rw [lookup_knownMembers member, lookup_knownMembers member, lookup_insert_of_ne differs.symm]
    · rw [lookup_knownMembers known]
      exact given_eq_zero_iff.mp absent
  · cases read

/-- A change of one element changes what is read at its place. -/
theorem list?_of_changed {α : Type} {read? : Json → Option α} {change : α → α} {front back : List Json}
    {v w : Json} {xs : List α} (changed : ∀ x, read? v = some x → read? w = some (change x))
    (read : list? read? (.array (front ++ v :: back)) = some xs) :
    list? read? (.array (front ++ w :: back)) = some (xs.modify front.length change) := by
  rw [list?] at read ⊢
  induction front generalizing xs with
  | nil =>
    rw [List.nil_append, List.mapM_cons] at read
    obtain ⟨x, first, read⟩ := Option.bind_eq_some_iff.mp read
    obtain ⟨rest, later, read⟩ := Option.bind_eq_some_iff.mp read
    cases read
    rw [List.nil_append, List.mapM_cons, changed x first, later]
    rfl
  | cons u front ih =>
    rw [List.cons_append, List.mapM_cons] at read
    obtain ⟨x, first, read⟩ := Option.bind_eq_some_iff.mp read
    obtain ⟨rest, later, read⟩ := Option.bind_eq_some_iff.mp read
    cases read
    rw [List.cons_append, List.mapM_cons, first, ih later]
    rfl

end Changes

end Fields

/-! ### Readers -/

section Readers

variable {α β : Type}

/-- A reader does not notice neutral changes, and refuses what is broken. -/
structure Schema.Governs (s : Schema) (read? : Json → Option α) : Prop where
  neutral : ∀ {v w}, s.Neutral v w → read? w = read? v
  broken : ∀ {v}, s.Broken v → read? v = none

theorem Schema.governs_value (read? : Json → Option α) : Schema.value.Governs read? where
  neutral change := nomatch change
  broken broken := nomatch broken

theorem Schema.Governs.list {s : Schema} {read? : Json → Option α} (h : s.Governs read?) :
    (Schema.list s).Governs (list? read?) where
  neutral := by
    intro v w change
    cases change with
    | element inside => simp only [list?, List.mapM_append, List.mapM_cons, h.neutral inside]
  broken := by
    intro v broken
    cases broken with
    | element here inside =>
      rw [list?, mapM_eq_ite, if_neg]
      intro all
      have read := List.all_eq_true.mp all _ here
      rw [h.broken inside] at read
      cases read

/-- A field that is the same, or has a neutral change inside. -/
def Schema.Alike (s : Schema) (found found' : Option Json) : Prop :=
  found' = found ∨ ∃ v w, found = some v ∧ found' = some w ∧ s.Neutral v w

variable {names optional : List String} {field : String → Schema} {name : String}

/-- What is made of the fields of a record keeps to the schemas of the fields: it does not notice neutral
changes inside them, and nothing is made if a field that is needed is missing or one is broken. -/
structure Assembles (names optional : List String) (field : String → Schema)
    (make? : List (String × Json) → Option α) : Prop where
  neutral : ∀ {fields fields'},
    (∀ name ∈ names, (field name).Alike (fields.lookup name) (fields'.lookup name)) →
      make? fields' = make? fields
  missing : ∀ {fields}, ∀ name ∈ names, name ∉ optional → fields.lookup name = none →
    make? fields = none
  broken : ∀ {fields}, ∀ name ∈ names, ∀ v, fields.lookup name = some v → (field name).Broken v →
    make? fields = none

theorem assembles_done (x : α) : Assembles [] optional field fun _ => some x where
  neutral _ := rfl
  missing := by simp
  broken := by simp

/-- One more field, which is found under its name alone. -/
theorem Assembles.next (find? : Option Json → Option β) {make? : β → List (String × Json) → Option α}
    (same : ∀ {found found'}, (field name).Alike found found' → find? found' = find? found)
    (needed : name ∉ optional → find? none = none)
    (refused : ∀ {v}, (field name).Broken v → find? (some v) = none)
    (more : ∀ x, Assembles names optional field (make? x)) :
    Assembles (name :: names) optional field fun fields =>
      find? (fields.lookup name) >>= fun x => make? x fields where
  neutral := by
    intro fields fields' alike
    obtain ⟨here, others⟩ := List.forall_mem_cons.mp alike
    have later (x : β) : make? x fields' = make? x fields := (more x).neutral others
    simp only [same here, later]
  missing := by
    intro fields other member lacking absent
    rcases List.mem_cons.mp member with rfl | member
    · rw [absent, needed lacking]
      rfl
    · cases find? (fields.lookup name) with
      | none => rfl
      | some x => exact (more x).missing other member lacking absent
  broken := by
    intro fields other member v here broken
    rcases List.mem_cons.mp member with rfl | member
    · rw [here, refused broken]
      rfl
    · cases find? (fields.lookup name) with
      | none => rfl
      | some x => exact (more x).broken other member v here broken

theorem Assembles.required {read? : Json → Option β} {make? : β → List (String × Json) → Option α}
    (h : (field name).Governs read?) (more : ∀ x, Assembles names optional field (make? x)) :
    Assembles (name :: names) optional field fun fields =>
      required? fields name read? >>= fun x => make? x fields := by
  refine Assembles.next (fun found => found >>= read?) ?_ (fun _ => rfl) h.broken more
  rintro found found' (rfl | ⟨v, w, rfl, rfl, change⟩)
  · rfl
  · exact h.neutral change

theorem Assembles.orDefault {read? : Json → Option β} {default : β}
    {make? : β → List (String × Json) → Option α} (h : (field name).Governs read?)
    (spare : name ∈ optional) (more : ∀ x, Assembles names optional field (make? x)) :
    Assembles (name :: names) optional field fun fields =>
      orDefault? fields name read? default >>= fun x => make? x fields := by
  have found_eq (fields : List (String × Json)) :
      orDefault? fields name read? default = (fields.lookup name).elim (some default) read? := by
    rw [orDefault?]
    cases fields.lookup name <;> rfl
  simp only [found_eq]
  refine Assembles.next (fun found => found.elim (some default) read?) ?_
    (fun needed => absurd spare needed) h.broken more
  rintro found found' (rfl | ⟨v, w, rfl, rfl, change⟩)
  · rfl
  · exact h.neutral change

/-! ### Records -/

variable {v w : Json}

/-- A neutral change of a record keeps how often each field is given, and keeps the fields alike. -/
theorem members_of_neutral (change : (Schema.record names optional field).Neutral v w) :
    ∃ ms ms', v = .object ms ∧ w = .object ms' ∧ named ms' = named ms ∧
      (∀ name ∈ names, given name ms' = given name ms) ∧
      ∀ name ∈ names, given name ms ≤ 1 →
        (field name).Alike (ms.lookup (.text name)) (ms'.lookup (.text name)) := by
  cases change with
  | @permute _ _ _ ms ms' order =>
    have counts (name : String) : given name ms' = given name ms := (order.countP_eq _).symm
    refine ⟨ms, ms', rfl, rfl, order.symm.all_eq, fun name _ => counts name, ?_⟩
    intro name _ once
    refine .inl (Option.ext fun x => ?_)
    rw [lookup_eq_some_iff once, lookup_eq_some_iff ((counts name).trans_le once), order.mem_iff]
  | @insert _ _ _ before after other w unknown =>
    have differs {name : String} (known : name ∈ names) : other ≠ name :=
      (ne_of_mem_of_not_mem known unknown).symm
    refine ⟨_, _, rfl, rfl, named_insert .., ?_, ?_⟩
    · intro name known
      rw [given_insert, if_neg (differs known), Nat.add_zero]
    · intro name known _
      exact .inl (lookup_insert_of_ne (differs known))
  | @replace _ _ _ before after other v w unknown =>
    have differs {name : String} (known : name ∈ names) : other ≠ name :=
      (ne_of_mem_of_not_mem known unknown).symm
    refine ⟨_, _, rfl, rfl, by rw [named_insert, named_insert], ?_, ?_⟩
    · intro name known
      rw [given_insert, given_insert]
    · intro name known _
      rw [lookup_insert_of_ne (differs known), lookup_insert_of_ne (differs known)]
      exact .inl rfl
  | @member _ _ _ before after other v w inside =>
    refine ⟨_, _, rfl, rfl, by rw [named_insert, named_insert], ?_, ?_⟩
    · intro name known
      rw [given_insert, given_insert]
    · intro name known _
      by_cases same : other = name
      · subst same
        simp only [List.lookup_append, List.lookup_cons_self]
        cases before.lookup (.text other) with
        | none => exact .inr ⟨v, w, rfl, rfl, inside⟩
        | some x => exact .inl rfl
      · rw [lookup_insert_of_ne same, lookup_insert_of_ne same]
        exact .inl rfl

/-- A record is governed by its schema if what is made of its fields keeps to theirs. -/
theorem Assembles.governs {make? : List (String × Json) → Option α}
    (h : Assembles names optional field make?) :
    (Schema.record names optional field).Governs fun v => v.fields? names >>= make? where
  neutral := by
    intro v w change
    obtain ⟨ms, ms', rfl, rfl, texts, counts, alike⟩ := members_of_neutral change
    have told : (named ms' ∧ ∀ name ∈ names, given name ms' ≤ 1) ↔
        (named ms ∧ ∀ name ∈ names, given name ms ≤ 1) := by
      rw [texts]
      exact and_congr_right fun _ => forall₂_congr fun name known => by rw [counts name known]
    rw [fields?_object, fields?_object]
    by_cases once : named ms ∧ ∀ name ∈ names, given name ms ≤ 1
    · rw [if_pos once, if_pos (told.mpr once)]
      apply h.neutral
      intro name known
      rw [lookup_knownMembers known, lookup_knownMembers known]
      exact alike name known (once.2 name known)
    · rw [if_neg once, if_neg (fun once' => once (told.mp once'))]
  broken := by
    intro v broken
    cases broken with
    | @missing _ _ _ ms name known needed absent =>
      rw [fields?_object]
      split
      · apply h.missing name known needed
        rw [lookup_knownMembers known]
        exact given_eq_zero_iff.mp absent
      · rfl
    | @repeated _ _ _ ms name known twice =>
      rw [fields?_object, if_neg]
      · rfl
      · rintro ⟨-, once⟩
        have := once name known
        omega
    | @member _ _ _ ms name v known here inside =>
      rw [fields?_object]
      split
      · next once =>
        refine h.broken name known v ?_ inside
        rw [lookup_knownMembers known, lookup_eq_some_iff (once.2 name known)]
        exact here
      · rfl

end Readers

end SimdProfile.Json

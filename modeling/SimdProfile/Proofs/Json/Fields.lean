import SimdProfile.Json.Fields
import SimdProfile.Proofs.Json.RoundTrip

/-!
# Fields read back

What is written for a field of a record is read back by the reader of that field: integers and texts
always, binary64 numbers if they are finite, lists if all their elements are. The members a record is
written with are its fields.
-/

namespace SimdProfile.Json

/-! ### Records -/

section Fields

variable {α β : Type}

theorem mapM_map_guard {f : β → Option α} {g : α → β} {p : α → Bool}
    (h : ∀ x, f (g x) = Option.guard p x) (l : List α) :
    (l.map g).mapM f = Option.guard (·.all p) l := by
  induction l with
  | nil => rfl
  | cons x l ih =>
    rw [List.map_cons, List.mapM_cons, h, ih]
    cases head : p x <;> cases tail : l.all p <;> simp [Option.guard, head, tail]

/-- The members of a record are its fields, in the order written. -/
theorem fields?_ofMembers {names : List String} {members : List (String × Json)}
    (known : (members.map (·.1)) = names) (distinct : names.Nodup) :
    fields? names (.ofMembers members) = some members := by
  have texts : (members.map fun m => (Literal.text m.1, m.2)).mapM
      (fun m => m.1.text?.map (·, m.2)) = some members := by
    have kept := mapM_map_guard (f := fun m : Literal × Json => m.1.text?.map (·, m.2))
      (g := fun m : String × Json => (.text m.1, m.2)) (p := fun _ => true) (fun _ => rfl) members
    simpa [Option.guard] using kept
  have all : members.filter (names.contains ·.1) = members := by
    rw [List.filter_eq_self]
    intro m member
    rw [List.contains_iff_mem, ← known]
    exact List.mem_map_of_mem member
  rw [ofMembers, fields?, texts]
  simp only [Option.bind_eq_bind, Option.bind_some, all, known, distinct, if_true]

theorem exists_of_required? {fields : List (String × Json)} {name : String} {read? : Json → Option α}
    {x : α} (h : required? fields name read? = some x) : ∃ v, read? v = some x := by
  obtain ⟨v, -, read⟩ := Option.bind_eq_some_iff.mp h
  exact ⟨v, read⟩

/-- Elements written the same way are read the same way, or not at all if one is refused. -/
theorem list?_map {read? : Json → Option α} {write : α → Json} {accepts : α → Bool}
    (h : ∀ x, read? (write x) = Option.guard accepts x) (l : List α) :
    list? read? (.array (l.map write)) = Option.guard (·.all accepts) l :=
  mapM_map_guard h l

theorem exists_of_list? {read? : Json → Option α} {v : Json} {l : List α}
    (h : list? read? v = some l) : ∀ x ∈ l, ∃ w, read? w = some x := by
  cases v with
  | array elements =>
    replace h : elements.mapM read? = some l := h
    induction elements generalizing l with
    | nil =>
      cases h
      simp
    | cons v elements ih =>
      rw [List.mapM_cons] at h
      obtain ⟨x, head, h⟩ := Option.bind_eq_some_iff.mp h
      obtain ⟨rest, tail, h⟩ := Option.bind_eq_some_iff.mp h
      cases h
      exact List.forall_mem_cons.mpr ⟨⟨v, head⟩, ih tail⟩
  | _ => cases h

/-- A field that is given is read, and reading goes on. -/
theorem read_bind {field : Option α} {x : α} {next : α → Option β} {y : Option β}
    (read : field = some x) (rest : next x = y) : field.bind next = y := by
  rw [read]
  exact rest

/-- A field that may be refused is read, and reading goes on, if it is accepted. -/
theorem guard_bind {field : Option α} {accepts : α → Bool} {x : α} {next : α → Option β} {p : Bool}
    {y : β} (read : field = Option.guard accepts x) (rest : next x = if p then some y else none) :
    field.bind next = if accepts x && p then some y else none := by
  cases accepted : accepts x <;> simp [read, Option.guard, accepted, rest]

end Fields

/-! ### Single fields -/

theorem text?_ofText (s : String) : text? (.ofText s) = some s := rfl

theorem int?_ofInt {low high i : Int} (h : low ≤ i ∧ i ≤ high) : int? low high (.ofInt i) = some i := by
  rw [ofInt, int?, Numeral.toInt?_ofInt]
  simp [h]

theorem int32?_ofInt (i : Int32) : int32? (.ofInt i.toInt) = some i := by
  have low := i.le_toInt
  have high := i.toInt_lt
  rw [int32?, int?_ofInt (by omega), Option.map_eq_map, Option.map_some, Int32.ofInt_toInt]

theorem uint32?_ofNat (n : UInt32) : uint32? (.ofNat n.toNat) = some n := by
  have high := n.toNat_lt
  rw [uint32?, ofNat, int?_ofInt (by omega), Option.map_eq_map, Option.map_some, Int.toNat_natCast,
    UInt32.ofNat_toNat]

theorem uint64?_ofNat (n : UInt64) : uint64? (.ofNat n.toNat) = some n := by
  have high := n.toNat_lt
  rw [uint64?, ofNat, int?_ofInt (by omega), Option.map_eq_map, Option.map_some, Int.toNat_natCast,
    UInt64.ofNat_toNat]

/-- A number is read back if it is finite, and only then. -/
theorem binary64?_ofBinary64 (x : Binary64) :
    binary64? (.ofBinary64 x) = Option.guard Binary64.isFinite x := by
  cases finite : x.isFinite with
  | true =>
    obtain ⟨n, written, read⟩ := Numeral.exists_ofBinary64? finite
    rw [ofBinary64, written, Option.guard, if_pos finite]
    exact read
  | false => simp [ofBinary64, Numeral.ofBinary64?, finite, binary64?, Option.guard]

theorem isFinite_of_binary64? {v : Json} {x : Binary64} (h : v.binary64? = some x) : x.isFinite := by
  cases v with
  | number n => exact Numeral.isFinite_of_toBinary64? h
  | _ => cases h

theorem isFinite_of_required? {fields : List (String × Json)} {name : String} {x : Binary64}
    (h : required? fields name binary64? = some x) : x.isFinite := by
  obtain ⟨v, read⟩ := exists_of_required? h
  exact isFinite_of_binary64? read

end SimdProfile.Json

import Mathlib.Data.List.Forall2
import SimdProfile.Log.JsonLines
import SimdProfile.Proofs.Json.Fields
import SimdProfile.Proofs.Json.Line

/-!
# The log read back

An entry of the log is read from its own text if the clock reads the moment it wrote and what the entry is
annotated with is settled, which it is for the entry of any record. So what the logger writes can be read
line by line, whatever the records say and in whichever order the host goes through its maps: there is one
line for each record that is let through, and it is read as an entry that says the same. The numbers of the
entries go up until the 64 bits they have are used up.
-/

namespace SimdProfile

namespace Json

/-- Members that are read as they are: no key twice, and only values that stand for themselves. -/
structure Settled (ms : List (String × Json)) : Prop where
  distinct : (ms.map (·.1)).Nodup
  values : ∀ m ∈ ms, settle? m.2 = some m.2

/-- Settled members are settled in any order. -/
theorem Settled.perm {ms arranged : List (String × Json)} (settled : Settled ms)
    (order : arranged.Perm ms) : Settled arranged where
  distinct := (order.map (·.1)).nodup_iff.mpr settled.distinct
  values m member := settled.values m (order.mem_iff.mp member)

theorem settle?_ofText (s : String) : settle? (.ofText s) = some (.ofText s) := by
  rw [ofText, settle?, Literal.text?, Option.map_some, ofText]

theorem settle?_ofNat (n : UInt32) : settle? (.ofNat n.toNat) = some (.ofNat n.toNat) := by
  have high := n.toNat_lt
  have inside : -0x8000000000000000 ≤ (n.toNat : Int) ∧ (n.toNat : Int) ≤ 0xffffffffffffffff := by
    omega
  have kept : (some (n.toNat : Int)).filter
      (fun i => decide (-0x8000000000000000 ≤ i ∧ i ≤ 0xffffffffffffffff)) = some (n.toNat : Int) := by
    rw [Option.filter_some, if_pos (decide_eq_true inside)]
  rw [ofNat, ofInt, settle?, Numeral.toInt?_ofInt, kept]
  rfl

theorem settleMembers?_of_settled {ms : List (String × Json)} (settled : Settled ms) :
    settleMembers? (ms.map fun m => (.text m.1, m.2)) = some ms := by
  induction ms with
  | nil => rfl
  | cons m ms ih =>
    obtain ⟨other, distinct⟩ := List.nodup_cons.mp settled.distinct
    obtain ⟨first, values⟩ := List.forall_mem_cons.mp settled.values
    have absent : (ms.map (·.1)).contains m.1 = false := by
      rw [← Bool.not_eq_true, List.contains_iff_mem]
      exact other
    rw [List.map_cons, settleMembers?, first, ih ⟨distinct, values⟩]
    simp only [Literal.text?, Option.bind_eq_bind, Option.bind_some, absent]
    rfl

end Json

namespace Log

variable {T : Type}

/-! ### Entries -/

namespace Entry

variable [Timestamp T]

theorem moment?_ofText {m : T} (kept : Timestamp.ofText? (Timestamp.text m) = some m) :
    moment? (.ofText (Timestamp.text m)) = some m := by
  rw [moment?, Json.text?_ofText, Option.bind_eq_bind, Option.bind_some, kept]

theorem ofJson?_toJson {e : Entry T}
    (kept : Timestamp.ofText? (Timestamp.text e.stamp.timestamp) = some e.stamp.timestamp)
    (settled : Json.Settled e.annotations) : ofJson? e.toJson = some e := by
  have annotations : annotations? (.ofMembers e.annotations) = some e.annotations :=
    Json.settleMembers?_of_settled settled
  unfold ofJson?
  refine Json.read_bind (Json.fields?_ofMembers rfl (by decide)) ?_
  refine Json.read_bind (moment?_ofText kept) ?_
  refine Json.read_bind (Json.uint64?_ofNat e.stamp.sequence) ?_
  refine Json.read_bind (Json.text?_ofText e.stamp.thread) ?_
  refine Json.read_bind (Json.uint32?_ofNat e.stamp.process) ?_
  refine Json.read_bind (Json.text?_ofText e.level) ?_
  refine Json.read_bind (Json.text?_ofText e.component) ?_
  refine Json.read_bind (Json.text?_ofText e.operation) ?_
  refine Json.read_bind (Json.text?_ofText e.message) ?_
  exact Json.read_bind annotations rfl

/-- An entry is read from its own text. -/
theorem ofText?_text {e : Entry T}
    (kept : Timestamp.ofText? (Timestamp.text e.stamp.timestamp) = some e.stamp.timestamp)
    (settled : Json.Settled e.annotations) : ofText? e.text = some e := by
  rw [ofText?, text, Json.parse?_compact, Option.bind_eq_bind, Option.bind_some,
    ofJson?_toJson kept settled]

theorem newline_not_mem_text (e : Entry T) : '\n' ∉ e.text.toList :=
  Json.newline_not_mem_compact e.toJson

end Entry

/-! ### Entries of records -/

/-- What is known of the place of a record, as an entry is annotated with it. -/
def Record.annotations (r : Record) : List (String × Json) :=
  (r.file.map fun file => ("file", .ofText file)).toList ++
    (r.line.map fun line => ("line", .ofNat line.toNat)).toList

theorem Record.mem_annotations_iff {r : Record} {key : String} {value : Json} :
    (key, value) ∈ r.annotations ↔
      (key = "file" ∧ ∃ file ∈ r.file, value = .ofText file) ∨
      (key = "line" ∧ ∃ line ∈ r.line, value = .ofNat line.toNat) := by
  rw [annotations, List.mem_append]
  apply or_congr
  · cases r.file <;> simp
  · cases r.line <;> simp

theorem Record.settled_annotations (r : Record) : Json.Settled r.annotations where
  distinct := by
    unfold annotations
    cases r.file <;> cases r.line <;> simp
  values := by
    rintro ⟨key, value⟩ member
    rcases mem_annotations_iff.mp member with ⟨-, file, -, rfl⟩ | ⟨-, line, -, rfl⟩
    · exact Json.settle?_ofText file
    · exact Json.settle?_ofNat line

/-- The stamp of an entry some entries after this one. -/
def Stamp.after (s : Stamp T) (count : Nat) : Stamp T :=
  { s with sequence := s.sequence + UInt64.ofNat count }

theorem Stamp.after_zero (s : Stamp T) : s.after 0 = s := by
  have sequence : s.sequence + UInt64.ofNat 0 = s.sequence := UInt64.add_zero _
  rw [after, sequence]

theorem Stamp.after_next (s : Stamp T) (count : Nat) : s.next.after count = s.after (count + 1) := by
  have sequence : s.sequence + 1 + UInt64.ofNat count = s.sequence + UInt64.ofNat (count + 1) := by
    rw [Nat.add_comm count, UInt64.ofNat_add, UInt64.add_assoc]
    rfl
  rw [after, after, next, sequence]

theorem Stamp.sequence_after (s : Stamp T) (count : Nat) :
    (s.after count).sequence.toNat = (s.sequence.toNat + count) % 2 ^ 64 := by
  rw [after, UInt64.toNat_add, UInt64.toNat_ofNat', Nat.add_mod_mod]

/-- The numbers go up as long as they do not begin again at zero, and no longer. -/
theorem Stamp.sequences_increase_iff (s : Stamp T) (count : Nat) :
    ((List.range count).map fun i => (s.after i).sequence).Pairwise (· < ·) ↔
      s.sequence.toNat + count ≤ 2 ^ 64 := by
  have below := s.sequence.toNat_lt
  have number (i : Nat) := s.sequence_after i
  simp only [List.pairwise_iff_getElem, List.length_map, List.length_range, List.getElem_map,
    List.getElem_range, UInt64.lt_iff_toNat_lt, number]
  constructor
  · intro increase
    by_contra overflow
    -- the last number before zero, and zero itself
    have last := increase (2 ^ 64 - 1 - s.sequence.toNat) (2 ^ 64 - s.sequence.toNat) (by omega)
      (by omega) (by omega)
    omega
  · intro room i j _ high order
    omega

namespace JsonLines

/-- The entry says what a logger has to say of a record: when it was handed over, its level by name, its
target as the operation, its message, and its place in the source as far as that is known. -/
structure Tells (l : JsonLines) (o : Occasion T) (e : Entry T) : Prop where
  moment : e.stamp.timestamp = o.moment
  level : e.level = o.record.level.name
  component : e.component = l.component
  operation : e.operation = o.record.target
  message : e.message = o.record.message
  once : (e.annotations.map (·.1)).Nodup
  place : ∀ key value, (key, value) ∈ e.annotations ↔
    (key = "file" ∧ ∃ file ∈ o.record.file, value = .ofText file) ∨
    (key = "line" ∧ ∃ line ∈ o.record.line, value = .ofNat line.toNat)

variable (l : JsonLines) (stamp : Stamp T)

theorem entry_eq (o : Occasion T) :
    l.entry stamp o = ⟨stamp.atMoment o.moment, o.record.level.name, l.component, o.record.target,
      o.record.message, o.order.arrange o.record.annotations⟩ := by
  obtain ⟨⟨level, target, message, file, line⟩, moment, order⟩ := o
  cases file <;> cases line <;> rfl

theorem settled_annotations_entry (o : Occasion T) :
    Json.Settled (l.entry stamp o).annotations := by
  rw [entry_eq]
  exact o.record.settled_annotations.perm (o.order.arrange_perm _)

theorem tells_entry (o : Occasion T) : l.Tells o (l.entry stamp o) := by
  have settled := l.settled_annotations_entry stamp o
  rw [entry_eq] at settled ⊢
  refine ⟨rfl, rfl, rfl, rfl, rfl, settled.distinct, ?_⟩
  intro key value
  rw [(o.order.arrange_perm _).mem_iff]
  exact Record.mem_annotations_iff

/-- The entries are those of the records that are let through, numbered one after the other. -/
theorem entries_eq (os : List (Occasion T)) : (l.entries stamp os).1 =
    (os.filter fun o => l.enabled o.record.level).mapIdx fun i o => l.entry (stamp.after i) o := by
  induction os generalizing stamp with
  | nil => rfl
  | cons o os ih =>
    rw [entries, List.filter_cons]
    split
    · simp only [List.mapIdx_cons, stamp.after_zero, ih stamp.next, stamp.after_next]
    · exact ih stamp

theorem forall₂_mapIdx {α β : Type} {R : α → β → Prop} {f : Nat → α → β} (h : ∀ i x, R x (f i x))
    (xs : List α) : List.Forall₂ R xs (xs.mapIdx f) := by
  induction xs generalizing f with
  | nil => exact .nil
  | cons x xs ih =>
    rw [List.mapIdx_cons]
    exact .cons (h 0 x) (ih fun i => h (i + 1))

/-- Lines without newlines, each ended by one, are told apart by the newlines. -/
theorem splitOn_lines {texts : List String} (plain : ∀ s ∈ texts, '\n' ∉ s.toList) :
    (String.join (texts.map (· ++ "\n"))).toList.splitOn '\n' = texts.map String.toList ++ [[]] := by
  rw [String.toList_join, List.flatMap_map]
  induction texts with
  | nil => rfl
  | cons s texts ih =>
    obtain ⟨first, others⟩ := List.forall_mem_cons.mp plain
    have line : (s ++ "\n").toList = s.toList ++ ['\n'] := String.toList_append
    rw [List.flatMap_cons, line, List.append_assoc, List.singleton_append,
      List.splitOn_append_cons_self, List.splitOn_eq_singleton first, ih others]
    rfl

variable [Timestamp T]

/-- **What is written for any records is one line for each of them that is let through, in order, and each
line is read as an entry that tells its record**, whatever the clock shows and in whichever order the maps
are gone through, provided that the clock reads what it writes. The numbers of the entries go up unless the
counter overflows. -/
theorem each_record_let_through_is_one_line
    (lawful : ∀ m : T, Timestamp.ofText? (Timestamp.text m) = some m) (os : List (Occasion T)) :
    ∃ (texts : List String) (es : List (Entry T)),
      l.lines stamp os = texts.map (· ++ "\n") ∧
      (String.join (l.lines stamp os)).toList.splitOn '\n' = texts.map String.toList ++ [[]] ∧
      List.Forall₂ (fun s e => '\n' ∉ s.toList ∧ Entry.ofText? s = some e) texts es ∧
      List.Forall₂ l.Tells (os.filter fun o => o.record.level.rank ≤ l.minimum.rank) es ∧
      ((es.map (·.stamp.sequence)).Pairwise (· < ·) ↔ stamp.sequence.toNat + es.length ≤ 2 ^ 64) := by
  let es := (l.entries stamp os).1
  let texts := es.map Entry.text
  have numbered : es = (os.filter fun o => l.enabled o.record.level).mapIdx fun i o =>
      l.entry (stamp.after i) o := l.entries_eq stamp os
  have written : l.lines stamp os = texts.map (· ++ "\n") := by
    rw [lines, List.map_map]
    rfl
  have plain : ∀ s ∈ texts, '\n' ∉ s.toList := by
    intro s member
    obtain ⟨e, -, rfl⟩ := List.mem_map.mp member
    exact e.newline_not_mem_text
  have read : ∀ e ∈ es, Entry.ofText? e.text = some e := by
    intro e member
    rw [numbered] at member
    obtain ⟨i, _, rfl⟩ := List.mem_mapIdx.mp member
    exact Entry.ofText?_text (lawful _) (l.settled_annotations_entry _ _)
  have sequences : es.map (·.stamp.sequence) =
      (List.range es.length).map fun i => (stamp.after i).sequence := by
    rw [numbered]
    apply List.ext_getElem
    · simp
    · intro i _ _
      simp [entry_eq, Stamp.atMoment]
  refine ⟨texts, es, written, ?split, ?lines, ?tells, ?increase⟩
  case split =>
    rw [written]
    exact splitOn_lines plain
  case lines =>
    rw [List.forall₂_map_left_iff, List.forall₂_same]
    exact fun e member => ⟨e.newline_not_mem_text, read e member⟩
  case tells =>
    rw [numbered]
    exact forall₂_mapIdx (fun i o => l.tells_entry (stamp.after i) o) _
  case increase =>
    rw [sequences]
    exact stamp.sequences_increase_iff es.length

example : (JsonLines.mk "host" .warn).lines ⟨"2024-05-01T12:00:00Z", 5, "main", 7⟩
    [⟨⟨.info, "a", "b", none, some 4⟩, "2024-05-01T12:00:00Z", .asPut⟩,
      ⟨⟨.error, "a\nb", "\"\t\x01", some "k\\l", some 3⟩, "2024-05-01T12:00:00.250Z",
        ⟨List.reverse, List.reverse_perm⟩⟩] =
    ["\x7b\"timestamp\":\"2024-05-01T12:00:00.250Z\",\"sequence\":5,\"level\":\"ERROR\"," ++
      "\"component\":\"host\",\"operation\":\"a\\nb\",\"message\":\"\\\"\\t\\u0001\"," ++
      "\"context\":\x7b\"line\":3,\"file\":\"k\\\\l\"\x7d,\"thread_id\":\"main\"," ++
      "\"process_id\":7\x7d\n"] := by
  decide +kernel

/-- A clock that is looked at twice, a quarter of a second apart. -/
inductive Look where
  | first
  | second
  deriving DecidableEq

instance : Timestamp Look where
  text
    | .first => "2024-05-01T12:00:00Z"
    | .second => "2024-05-01T12:00:00.250Z"
  ofText? s :=
    if s = "2024-05-01T12:00:00Z" then some .first
    else if s = "2024-05-01T12:00:00.250Z" then some .second
    else none

/-- The keys in the order opposite to the one in which they were put. -/
def lastFirst : MapOrder := ⟨List.reverse, List.reverse_perm⟩

/-- An error with its place in the source, whose texts are not plain, and a warning without one, a while
later. In between, something that a logger of warnings does not write. -/
def threeOccasions : List (Occasion Look) := [
  ⟨⟨.error, "a\nb", "\"\t\x01", some "k\\l", some 3⟩, .first, lastFirst⟩,
  ⟨⟨.info, "a", "b", none, some 4⟩, .first, .asPut⟩,
  ⟨⟨.warn, "", "", none, none⟩, .second, .asPut⟩]

/-- The two lines of a logger of warnings are read back, each at its own moment. -/
theorem three_occasions_are_two_lines :
    (∀ m : Look, Timestamp.ofText? (Timestamp.text m) = some m) ∧
    ∃ (s₁ s₂ : String) (e₁ e₂ : Entry Look),
      (JsonLines.mk "host" .warn).lines ⟨.first, 5, "main", 7⟩ threeOccasions =
        [s₁ ++ "\n", s₂ ++ "\n"] ∧
      '\n' ∉ s₁.toList ∧ '\n' ∉ s₂.toList ∧
      Entry.ofText? s₁ = some e₁ ∧ Entry.ofText? s₂ = some e₂ ∧
      e₁.stamp.timestamp = .first ∧ e₁.level = "ERROR" ∧ e₁.operation = "a\nb" ∧
      ("line", .ofNat 3) ∈ e₁.annotations ∧
      e₂.stamp.timestamp = .second ∧ e₂.level = "WARN" ∧ e₂.annotations = [] ∧
      e₁.stamp.sequence < e₂.stamp.sequence := by
  have lawful : ∀ m : Look, Timestamp.ofText? (Timestamp.text m) = some m := by
    intro m
    cases m <;> decide +kernel
  refine ⟨lawful, ?_⟩
  obtain ⟨texts, es, written, -, read, tells, increase⟩ :=
    each_record_let_through_is_one_line ⟨"host", .warn⟩ ⟨.first, 5, "main", 7⟩ lawful threeOccasions
  have let_through : threeOccasions.filter (fun o => o.record.level.rank ≤ Level.warn.rank) =
      [⟨⟨.error, "a\nb", "\"\t\x01", some "k\\l", some 3⟩, .first, lastFirst⟩,
        ⟨⟨.warn, "", "", none, none⟩, .second, .asPut⟩] := rfl
  rw [let_through] at tells
  obtain ⟨e₁, _, tells₁, later, rfl⟩ := List.forall₂_cons_left_iff.mp tells
  obtain ⟨e₂, _, tells₂, ends, rfl⟩ := List.forall₂_cons_left_iff.mp later
  obtain rfl := List.forall₂_nil_left_iff.mp ends
  obtain ⟨s₁, _, ⟨plain₁, read₁⟩, below, rfl⟩ := List.forall₂_cons_right_iff.mp read
  obtain ⟨s₂, _, ⟨plain₂, read₂⟩, ends, rfl⟩ := List.forall₂_cons_right_iff.mp below
  obtain rfl := List.forall₂_nil_right_iff.mp ends
  have number : e₁.stamp.sequence < e₂.stamp.sequence :=
    List.rel_of_pairwise_cons (increase.mpr (show 5 + 2 ≤ 2 ^ 64 by decide)) (by simp)
  have bare : e₂.annotations = [] := by
    rw [List.eq_nil_iff_forall_not_mem]
    rintro ⟨key, value⟩ member
    rcases (tells₂.place key value).mp member with ⟨-, _, known, -⟩ | ⟨-, _, known, -⟩ <;> cases known
  exact ⟨s₁, s₂, e₁, e₂, written, plain₁, plain₂, read₁, read₂, tells₁.moment, tells₁.level,
    tells₁.operation, (tells₁.place _ _).mpr (.inr ⟨rfl, 3, rfl, rfl⟩), tells₂.moment, tells₂.level,
    bare, number⟩

end JsonLines

end Log

end SimdProfile

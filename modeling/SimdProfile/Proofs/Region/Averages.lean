import Mathlib.Algebra.Order.BigOperators.Group.List
import Mathlib.Algebra.Order.Field.Basic
import Mathlib.Algebra.Order.Ring.Rat
import Mathlib.Data.List.ReduceOption
import Mathlib.Tactic.FieldSimp
import Mathlib.Tactic.Ring
import SimdProfile.Proofs.Region.Tallies

/-!
# Averages as means

The averages of a region are kept by the same fold whatever the numbers are: `Region.after_averages` for
native ones. In exact numbers each average is the arithmetic mean of what was sampled, so that neither
exits without a sample nor the order of the samples leave a trace in it, and every fold can be read as a
step towards the new sample. `Region.averages_are_means_of_samples` puts these together.
-/

namespace SimdProfile

/-- A metric of a sample. -/
inductive Metric where
  | ipc
  | l2Hit
  | l3Hit
  | bytesRead
  deriving DecidableEq, Repr

/-- The value of a metric in a sample. -/
def Sample.value {F : Type} [NatCast F] (s : Sample F) : Metric → F
  | .ipc => s.ipc
  | .l2Hit => s.l2Hit
  | .l3Hit => s.l3Hit
  | .bytesRead => (s.bytesRead.toNat : F)

/-! ### One average -/

section Mean

variable {K : Type} [Field K]

/-- The arithmetic mean of some numbers, zero if there are none. -/
def arithmeticMean (xs : List K) : K := if xs.isEmpty then 0 else xs.sum / xs.length

/-- The mean of the numbers before, moved towards the `n`th number `x` by its share. -/
def nudgeMean (mean x : K) (n : Nat) : K := mean + (x - mean) / n

/-- `foldMean` as far as its operations are defined: one can be taken from the count, and the count
divides. -/
def foldMean? [DecidableEq K] (mean x : K) (n : Nat) : Option K :=
  if 1 ≤ n ∧ (n : K) ≠ 0 then some (foldMean mean x n) else none

theorem arithmeticMean_perm {xs ys : List K} (permuted : xs.Perm ys) :
    arithmeticMean xs = arithmeticMean ys := by
  rw [arithmeticMean, arithmeticMean, permuted.sum_eq, permuted.length_eq, permuted.isEmpty_eq]

variable [CharZero K]

theorem foldMean?_succ [DecidableEq K] (mean x : K) (n : Nat) :
    foldMean? mean x (n + 1) = some (foldMean mean x (n + 1)) :=
  if_pos ⟨Nat.succ_pos n, Nat.cast_ne_zero.mpr (Nat.succ_ne_zero n)⟩

theorem arithmeticMean_mul_length (xs : List K) : arithmeticMean xs * xs.length = xs.sum := by
  cases xs with
  | nil => simp
  | cons x xs =>
    have many : ((x :: xs).length : K) ≠ 0 := Nat.cast_ne_zero.mpr (Nat.succ_ne_zero _)
    exact div_mul_cancel₀ _ many

/-- Folding in one more number turns the mean of the others into the mean of all. -/
theorem foldMean_arithmeticMean (xs : List K) (x : K) :
    foldMean (arithmeticMean xs) x (xs.length + 1) = arithmeticMean (xs ++ [x]) := by
  rw [foldMean, Nat.add_sub_cancel, arithmeticMean_mul_length, arithmeticMean]
  simp

/-- Folding in a number is a step towards it. -/
theorem foldMean_eq_nudgeMean (mean x : K) (n : Nat) :
    foldMean mean x (n + 1) = nudgeMean mean x (n + 1) := by
  have count : ((n + 1 : Nat) : K) ≠ 0 := Nat.cast_ne_zero.mpr (Nat.succ_ne_zero n)
  rw [foldMean, nudgeMean, Nat.add_sub_cancel]
  field_simp
  push_cast
  ring

variable [LinearOrder K] [IsStrictOrderedRing K] {xs : List K}

/-- A mean is not below the least of its numbers. -/
theorem le_arithmeticMean {low : K} (least : low ∈ xs.min?) : low ≤ arithmeticMean xs := by
  obtain ⟨member, below⟩ := List.min?_eq_some_iff.mp least
  have positive : (0 : K) < xs.length := Nat.cast_pos.mpr (List.length_pos_of_mem member)
  have sums : low * xs.length ≤ arithmeticMean xs * xs.length := by
    calc low * xs.length = xs.length • low := by rw [nsmul_eq_mul, mul_comm]
      _ ≤ xs.sum := List.card_nsmul_le_sum xs low below
      _ = arithmeticMean xs * xs.length := (arithmeticMean_mul_length xs).symm
  exact le_of_mul_le_mul_right sums positive

/-- A mean is not above the greatest of its numbers. -/
theorem arithmeticMean_le {high : K} (greatest : high ∈ xs.max?) : arithmeticMean xs ≤ high := by
  obtain ⟨member, above⟩ := List.max?_eq_some_iff.mp greatest
  have positive : (0 : K) < xs.length := Nat.cast_pos.mpr (List.length_pos_of_mem member)
  have sums : arithmeticMean xs * xs.length ≤ high * xs.length := by
    calc arithmeticMean xs * xs.length = xs.sum := arithmeticMean_mul_length xs
      _ ≤ xs.length • high := List.sum_le_card_nsmul xs high above
      _ = high * xs.length := by rw [nsmul_eq_mul, mul_comm]
  exact le_of_mul_le_mul_right sums positive

end Mean

/-! ### The averages of a region -/

namespace Averages

section Exits

variable {F : Type} [NatCast F] [Add F] [Mul F] [Div F]

/-- The average of a metric. -/
def mean (a : Averages F) : Metric → F
  | .ipc => a.ipc
  | .l2Hit => a.l2Hit
  | .l3Hit => a.l3Hit
  | .bytesRead => a.bytesRead

/-- The averages after some exits, from none on. -/
def ofExits [Zero F] (exits : List (Option (Sample F))) : Averages F := exits.foldl addExit empty

/-- The averages with one more sample, each folded by `fold`. -/
def addBy (fold : F → F → Nat → F) (a : Averages F) (s : Sample F) : Averages F :=
  let n := a.samples + 1
  ⟨n, fold a.ipc s.ipc n, fold a.l2Hit s.l2Hit n, fold a.l3Hit s.l3Hit n,
    fold a.bytesRead (s.bytesRead.toNat : F) n⟩

/-- The averages after an exit, its sample folded by `fold` if there is one. -/
def addExitBy (fold : F → F → Nat → F) (a : Averages F) (s : Option (Sample F)) : Averages F :=
  s.elim a (a.addBy fold)

theorem mean_add (a : Averages F) (s : Sample F) (m : Metric) :
    (a.add s).mean m = foldMean (a.mean m) (s.value m) (a.samples + 1) := by
  cases m <;> rfl

theorem ofExits_concat [Zero F] (exits : List (Option (Sample F))) (exit : Option (Sample F)) :
    ofExits (exits ++ [exit]) = (ofExits exits).addExit exit :=
  List.foldl_concat ..

end Exits

@[ext]
theorem ext_mean {F : Type} {a b : Averages F} (samples : a.samples = b.samples)
    (means : ∀ m, a.mean m = b.mean m) : a = b := by
  cases a
  cases b
  rw [mk.injEq]
  exact ⟨samples, means .ipc, means .l2Hit, means .l3Hit, means .bytesRead⟩

variable {K : Type} [Field K] [CharZero K]

/-- `add` as far as its operations are defined. -/
def add? [DecidableEq K] (a : Averages K) (s : Sample K) : Option (Averages K) := do
  let n := a.samples + 1
  return {
    samples := n
    ipc := ← foldMean? a.ipc s.ipc n
    l2Hit := ← foldMean? a.l2Hit s.l2Hit n
    l3Hit := ← foldMean? a.l3Hit s.l3Hit n
    bytesRead := ← foldMean? a.bytesRead (s.bytesRead.toNat : K) n }

/-- `addExit` as far as its operations are defined. -/
def addExit? [DecidableEq K] (a : Averages K) (s : Option (Sample K)) : Option (Averages K) :=
  s.elim (some a) a.add?

/-- No fold divides by zero or counts below zero. -/
theorem addExit?_eq [DecidableEq K] (a : Averages K) (s : Option (Sample K)) :
    a.addExit? s = some (a.addExit s) := by
  cases s with
  | none => rfl
  | some s =>
    show a.add? s = some (a.add s)
    rw [add?]
    simp only [foldMean?_succ]
    rfl

/-- Every fold is a step of the averages towards the sample. -/
theorem addExitBy_nudgeMean (a : Averages K) (s : Option (Sample K)) :
    a.addExitBy nudgeMean s = a.addExit s := by
  cases s with
  | none => rfl
  | some s =>
    show a.addBy nudgeMean s = a.add s
    rw [add, addBy]
    simp only [foldMean_eq_nudgeMean]

variable (exits : List (Option (Sample K)))

/-- Exits with a sample count, and each average is the mean of its metric over them. -/
theorem ofExits_eq : (ofExits exits).samples = exits.reduceOption.length ∧
    ∀ m, (ofExits exits).mean m = arithmeticMean (exits.reduceOption.map (·.value m)) := by
  induction exits using List.reverseRecOn with
  | nil =>
    refine ⟨rfl, ?_⟩
    intro m
    cases m <;> rfl
  | append_singleton exits exit ih =>
    obtain ⟨samples, means⟩ := ih
    cases exit with
    | none =>
      have unsampled : (exits ++ [none]).reduceOption = exits.reduceOption := by
        simp [List.reduceOption_append]
      rw [ofExits_concat, unsampled]
      exact ⟨samples, means⟩
    | some s =>
      have sampled : (exits ++ [some s]).reduceOption = exits.reduceOption ++ [s] := by
        simp [List.reduceOption_append]
      rw [ofExits_concat, sampled]
      constructor
      · rw [List.length_append, ← samples]
        rfl
      · intro m
        have length : (exits.reduceOption.map (·.value m)).length = (ofExits exits).samples := by
          rw [List.length_map, samples]
        calc ((ofExits exits).add s).mean m
            = foldMean ((ofExits exits).mean m) (s.value m) ((ofExits exits).samples + 1) :=
              mean_add _ s m
          _ = arithmeticMean (exits.reduceOption.map (·.value m) ++ [s.value m]) := by
              rw [means, ← length, foldMean_arithmeticMean]
          _ = arithmeticMean ((exits.reduceOption ++ [s]).map (·.value m)) := by
              rw [List.map_append, List.map_singleton]

theorem samples_ofExits : (ofExits exits).samples = exits.reduceOption.length := (ofExits_eq exits).1

theorem mean_ofExits (m : Metric) :
    (ofExits exits).mean m = arithmeticMean (exits.reduceOption.map (·.value m)) :=
  (ofExits_eq exits).2 m

variable {exits} in
/-- The order of the samples makes no difference, and exits without one make none. -/
theorem ofExits_perm {others : List (Option (Sample K))}
    (permuted : others.reduceOption.Perm exits.reduceOption) : ofExits others = ofExits exits := by
  apply ext_mean
  · rw [samples_ofExits, samples_ofExits, permuted.length_eq]
  · intro m
    rw [mean_ofExits, mean_ofExits]
    exact arithmeticMean_perm (permuted.map _)

end Averages

namespace Region

/-- The sample an event brings, if it is an exit. -/
def Event.exit? : Event → Option (Option (Sample Float))
  | .exit sample _ => some sample
  | _ => none

/-- The exits of a row of events, with their samples. -/
def exits (events : List Event) : List (Option (Sample Float)) := events.filterMap Event.exit?

/-- Exits alone touch the averages of a region. -/
theorem after_averages (r : Region) (events : List Event) :
    (r.after events).averages = (exits events).foldl Averages.addExit r.averages := by
  induction events generalizing r with
  | nil => rfl
  | cons e events ih =>
    have rest := ih (r.undergo e)
    cases e <;> exact rest

/-- **Each average of a region is the arithmetic mean of its samples.** The fold that keeps it is that of
native numbers, read in rational ones. -/
theorem averages_are_means_of_samples :
    (∀ (id : RegionId) (key : RegionKey) (endLine : Int32) (mask : UInt64) (events : List Event),
      ((create id key endLine mask).after events).averages = .ofExits (exits events)) ∧
    ∀ exits : List (Option (Sample ℚ)),
      let given := exits.reduceOption
      let a := Averages.ofExits exits
      a.samples = given.length ∧
      (∀ m, a.mean m = arithmeticMean (given.map (·.value m))) ∧
      (∀ m, (∀ low ∈ (given.map (·.value m)).min?, low ≤ a.mean m) ∧
        ∀ high ∈ (given.map (·.value m)).max?, a.mean m ≤ high) ∧
      (∀ others : List (Option (Sample ℚ)), others.reduceOption.Perm given →
        Averages.ofExits others = a) ∧
      exits.foldl (Averages.addExitBy nudgeMean) .empty = a ∧
      exits.foldlM Averages.addExit? .empty = some a := by
  constructor
  case left =>
    intro id key endLine mask events
    exact after_averages _ events
  case right =>
    intro exits given a
    refine ⟨Averages.samples_ofExits exits, Averages.mean_ofExits exits, ?bounded, ?permuted, ?nudged,
      ?defined⟩
    case bounded =>
      intro m
      rw [Averages.mean_ofExits exits m]
      constructor
      · intro low least
        exact le_arithmeticMean least
      · intro high greatest
        exact arithmeticMean_le greatest
    case permuted =>
      intro others permuted
      exact Averages.ofExits_perm permuted
    case nudged =>
      have steps : Averages.addExitBy (F := ℚ) nudgeMean = Averages.addExit := by
        funext a exit
        exact a.addExitBy_nudgeMean exit
      rw [steps]
      rfl
    case defined =>
      have steps : Averages.addExit? (K := ℚ) = fun a exit => pure (a.addExit exit) := by
        funext a exit
        exact a.addExit?_eq exit
      rw [steps, List.foldlM_pure]
      rfl

/-- A loop that was entered five times, the second and the last time without a sample, with the averages of
the three others. -/
theorem averages_of_loop_with_unsampled_exits :
    let sample (ipc l2Hit : ℚ) (bytes : UInt64) : Sample ℚ := ⟨ipc, l2Hit, 1, bytes⟩
    let exits := [some (sample 4 0 0), none, some (sample 1 (1 / 2) 64), some (sample 1 1 128), none]
    let a := Averages.ofExits exits
    a.samples = 3 ∧ a.mean .ipc = 2 ∧ a.mean .l2Hit = 1 / 2 ∧ a.mean .bytesRead = 64 ∧
      1 ≤ a.mean .ipc ∧ a.mean .ipc ≤ 4 ∧ Averages.ofExits exits.reverse = a := by
  intro sample exits a
  obtain ⟨samples, means, bounded, permuted, -, -⟩ := averages_are_means_of_samples.2 exits
  refine ⟨samples, (means .ipc).trans (by decide +kernel), (means .l2Hit).trans (by decide +kernel),
    (means .bytesRead).trans (by decide +kernel), (bounded .ipc).1 1 (by decide +kernel),
    (bounded .ipc).2 4 (by decide +kernel), permuted exits.reverse ?_⟩
  exact List.reverse_perm exits.reduceOption

end Region

end SimdProfile

/-!
# Tallies by line

What was observed at each source line, as pairs of a total and of hits in it. A histogram lists its
lines in ascending order, each once.
-/

namespace SimdProfile

/-- A total and the hits in it. -/
structure Tally where
  total : Nat
  hits : Nat
  deriving DecidableEq, Repr

namespace Tally

/-- No observation. -/
def empty : Tally := ⟨0, 0⟩

/-- The tally with one more observation. -/
def add (t : Tally) (total hits : Nat) : Tally := ⟨t.total + total, t.hits + hits⟩

/-- The share of hits in percent; zero if nothing was counted. -/
def percent (t : Tally) : Float :=
  if t.total = 0 then 0.0 else Float.ofNat t.hits / Float.ofNat t.total * 100.0

theorem percent_of_total_eq_zero {t : Tally} (nothing : t.total = 0) : t.percent = 0.0 :=
  if_pos nothing

theorem percent_of_total_ne_zero {t : Tally} (counted : t.total ≠ 0) :
    t.percent = Float.ofNat t.hits / Float.ofNat t.total * 100.0 :=
  if_neg counted

end Tally

/-- Tallies by line. -/
structure Histogram where
  lines : List (Int32 × Tally)
  deriving DecidableEq, Repr

namespace Histogram

/-- No line. -/
def empty : Histogram := ⟨[]⟩

/-- One more observation at a line, in a list of lines. -/
def addTo (line : Int32) (total hits : Nat) : List (Int32 × Tally) → List (Int32 × Tally)
  | [] => [(line, Tally.empty.add total hits)]
  | (l, t) :: rest =>
    if line < l then (line, Tally.empty.add total hits) :: (l, t) :: rest
    else if line = l then (l, t.add total hits) :: rest
    else (l, t) :: addTo line total hits rest

/-- The histogram with one more observation at a line. -/
def add (h : Histogram) (line : Int32) (total hits : Nat) : Histogram :=
  ⟨addTo line total hits h.lines⟩

/-- The tally of a line, if it was observed. -/
def tally? (h : Histogram) (line : Int32) : Option Tally :=
  h.lines.lookup line

theorem lookup_addTo_of_ne {line other : Int32} (h : other ≠ line) (total hits : Nat)
    (ls : List (Int32 × Tally)) : (addTo line total hits ls).lookup other = ls.lookup other := by
  have hb : (other == line) = false := beq_false_of_ne h
  induction ls with
  | nil => simp [addTo, List.lookup_cons, hb]
  | cons entry rest ih =>
    obtain ⟨l, t⟩ := entry
    rw [addTo]
    split
    · simp [List.lookup_cons, hb]
    · split
      · next heq =>
        subst heq
        simp [List.lookup_cons, hb]
      · simp only [List.lookup_cons]
        rw [ih]

/-- An observation at one line leaves the tallies of all others alone. -/
theorem tally?_add_of_ne {line other : Int32} (h : other ≠ line) (g : Histogram) (total hits : Nat) :
    (g.add line total hits).tally? other = g.tally? other :=
  lookup_addTo_of_ne h total hits g.lines

end Histogram

end SimdProfile

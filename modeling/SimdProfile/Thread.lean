/-!
# Threads

Threads of the host, told apart by a number that is never used again.
-/

namespace SimdProfile

/-- The identity of a thread. -/
structure ThreadId where
  index : Nat
  deriving DecidableEq, Repr

/-- The identity as it is written in messages. -/
def ThreadId.text (t : ThreadId) : String := "ThreadId(" ++ Nat.repr t.index ++ ")"

end SimdProfile

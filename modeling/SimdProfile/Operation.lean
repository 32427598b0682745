/-!
# Operations

What instrumented code can ask of the profiler, and the names operations go by in messages.
-/

namespace SimdProfile

/-- An operation of instrumented code. -/
inductive Operation where
  /-- A thread declares its program. -/
  | declare
  /-- A region begins. -/
  | start
  /-- A region ends. -/
  | stop
  /-- A line of a loop iteration is observed. -/
  | iteration
  /-- A line of a conditional branch is observed. -/
  | branch
  /-- A thread ends its profile. -/
  | finish
  deriving DecidableEq, Repr

/-- The name of an operation. -/
def Operation.name : Operation → String
  | .declare => "init"
  | .start => "start_region"
  | .stop => "end_region"
  | .iteration => "iteration"
  | .branch => "if_branch"
  | .finish => "complete"

end SimdProfile

import SimdProfile.Profiler

/-!
# Calls from compiled code

The calls that a compiler puts around profiled regions. They carry text as bytes that end at the first
NUL, or a null pointer, and return nothing: an error is logged, and only a fatal one stops the process.
An origin has to be text. A note is for a reader of the log alone, so one that is none is left out.
-/

namespace SimdProfile.Host

/-- A text argument: the bytes it points to, or nothing. -/
abbrev TextArgument := Option (List UInt8)

/-- The text of an argument. -/
def readText (what : String) : TextArgument → Except Error String
  | none => .error (.invalidArgument (.missing what))
  | some bytes =>
    match Text.Utf8.decode (bytes.takeWhile (· ≠ 0)) with
    | .ok s => .ok s
    | .error fault => .error (.invalidArgument (.notText what fault))

/-- The text of an origin. -/
def readOrigin (origin : TextArgument) : Except Error String := readText "origin" origin

/-- The text of a note; one that is no text is empty. -/
def readNote (note : TextArgument) : String := (readText "note" note).toOption.getD ""

/-- A call of compiled code, with its text as bytes. -/
inductive RawCall where
  | declare (origin : TextArgument) (line width : Int32) (flags : UInt32)
  | start (origin : TextArgument) (kind startLine endLine task : Int32) (mask : UInt64)
  | stop (kind line : Int32)
  | iteration (note : TextArgument) (line : Int32) (mask : UInt64) (kind : Int32)
  | branch (note : TextArgument) (line : Int32) (mask : UInt64) (kind : Int32)
  | finish

namespace RawCall

/-- The operation of a call. -/
def operation : RawCall → Operation
  | declare .. => .declare
  | start .. => .start
  | stop .. => .stop
  | iteration .. => .iteration
  | branch .. => .branch
  | finish => .finish

/-- The call with its text read. -/
def read : RawCall → Except Error Call
  | declare origin line width flags =>
    (readOrigin origin).map fun s => .declare s line width flags
  | start origin kind startLine endLine task mask =>
    (readOrigin origin).map fun s => .start s kind startLine endLine task mask
  | stop kind line => .ok (.stop kind line)
  | iteration note line mask kind => .ok (.iteration (readNote note) line mask kind)
  | branch note line mask kind => .ok (.branch (readNote note) line mask kind)
  | finish => .ok .finish

end RawCall

/-- What a call leads to: the profiler after it, what is reported, and whether the process stops. -/
structure Outcome where
  profiler : Profiler
  events : List Log.Event
  aborts : Bool

/-- What is reported to the host about the result of an operation. -/
def closingEvents (operation : Operation) : Except Error Answer → List Log.Event
  | .error e => [.failed operation e]
  | .ok (.written path) => [.profileWritten path]
  | .ok _ => []

/-- Whether a result stops the process. -/
def isFatal : Except Error Answer → Bool
  | .error e => e.isFatal
  | .ok _ => false

/-- A call of a thread. -/
def call (p : Profiler) (t : ThreadId) (c : RawCall) : Outcome :=
  let reply := match c.read with
    | .ok readable => p.perform t readable
    | .error e => p.refuse e
  ⟨reply.profiler, reply.events ++ closingEvents c.operation reply.result, isFatal reply.result⟩

end SimdProfile.Host

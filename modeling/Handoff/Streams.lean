import Handoff.Sink

/-!
The standard streams that a program writes to, and what stands between it and its output.

A program need not have an output at all. Writes to a descriptor that is none, or is not open for
writing, are answered by an error of its own, and the handle that the program writes to counts them
as if all had been taken (`Sink.handle`), so nobody learns that nothing arrived (`Sink.arrived`).
-/

namespace Handoff

namespace Sink

/-- Whether there is no descriptor behind a sink that can be written to. -/
def isDetached (s : Sink) : Bool :=
  match s.refusal with
  | .fault (.os error) => error.code = OsError.badDescriptor.code
  | .nothingTaken | .fault _ => false

/-- A sink as it is seen through a handle. -/
def handle (s : Sink) : Sink := if s.isDetached then { s with limit := none } else s

/-- What arrives at a sink of the bytes that its handle has taken. -/
def arrived (s : Sink) (bytes : Bytes) : Bytes :=
  match s.limit with
  | some limit => if s.isDetached then bytes.take (limit - s.offset) else bytes
  | none => bytes

theorem handle_of_attached {s : Sink} (h : s.isDetached = false) : s.handle = s := by
  simp [handle, h]

theorem handle_of_unlimited {s : Sink} (h : s.limit = none) : s.handle = s := by
  obtain ⟨limit, _, _, _, _, _, _, _⟩ := s
  cases h
  exact ite_self _

theorem arrived_of_attached {s : Sink} (h : s.isDetached = false) (bytes : Bytes) :
    s.arrived bytes = bytes := by
  rw [arrived]
  split <;> simp [h]

theorem arrived_of_unlimited {s : Sink} (h : s.limit = none) (bytes : Bytes) :
    s.arrived bytes = bytes := by simp [arrived, h]

end Sink

/-- The standard streams of a program. -/
structure Streams where
  /-- What the standard output takes. -/
  output : Sink
  /-- Whether a terminal shows the standard output. -/
  outputIsTerminal : Bool
  /-- Whether a terminal shows the standard error. -/
  errorsIsTerminal : Bool
  deriving DecidableEq, Repr

/-- A sink stands for streams that no terminal shows. -/
instance : Coe Sink Streams := ⟨fun output => ⟨output, false, false⟩⟩

end Handoff

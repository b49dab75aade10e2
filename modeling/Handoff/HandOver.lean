import Handoff.Echo
import Handoff.Facility
import Handoff.Sink

/-!
The hand-over: echo the arguments, then pass the same arguments to the facility.

The facility is called only once the whole line has been written and flushed, because it may write
to the same place. Its answer is passed on as it is; a failed write or flush is told apart from it
and leaves its state alone.
-/

namespace Handoff

/-- What is seen of a hand-over from outside, in order. -/
inductive Event where
  /-- Bytes that were taken since the event before. -/
  | wrote (bytes : Bytes)
  /-- A flush, whether or not it succeeded. -/
  | flushed
  | called (args : List Bytes)
  deriving DecidableEq, Repr

/-- Why a hand-over failed. -/
inductive Failure (ε : Type) where
  | writing (fault : WriteFault)
  | flushing (fault : FlushFault)
  | facility (error : ε)
  deriving DecidableEq, Repr

/-- The report of a failure, given how the facility's errors are reported. -/
def Failure.report {ε : Type} (describe : ε → Report) : Failure ε → Report
  | .writing fault => (Report.ofMessage fault.message).within "writing arguments to output"
  | .flushing fault => (Report.ofMessage fault.message).within "flushing output"
  | .facility error => describe error

/-- The event of some bytes being taken; none if there were none. -/
def Event.ofSent (sent : Bytes) : List Event := if sent.isEmpty then [] else [.wrote sent]

/-- All bytes that were taken. -/
def Event.written (events : List Event) : Bytes :=
  events.flatMap fun
    | .wrote bytes => bytes
    | .flushed | .called _ => []

structure HandOver (σ ε : Type) where
  events : List Event
  result : Except (Failure ε) Int32
  sink : Sink
  state : σ

/-- Echoes the arguments as one line and hands them over. -/
def handOver {σ ε : Type} (facility : Facility σ ε) (args : List Bytes) (sink : Sink) (state : σ) :
    HandOver σ ε :=
  let line := sink.writeLine (echoBytes args)
  let wrote := Event.ofSent line.sent
  match line.result with
  | .error fault => ⟨wrote, .error (.writing fault), line.sink, state⟩
  | .ok () =>
    match line.sink.flush with
    | (.error fault, sink) => ⟨wrote ++ [.flushed], .error (.flushing fault), sink, state⟩
    | (.ok (), sink) =>
      let (state, answer) := facility state args
      ⟨wrote ++ [.flushed, .called args], answer.mapError .facility, sink, state⟩

/-- Hand-overs one after another, with one sink and one facility for all of them. Each takes place
whatever became of those before it. -/
def handOvers {σ ε : Type} (facility : Facility σ ε) :
    List (List Bytes) → Sink → σ → List (HandOver σ ε)
  | [], _, _ => []
  | args :: steps, sink, state =>
    let first := handOver facility args sink state
    first :: handOvers facility steps first.sink first.state

@[simp] theorem Event.written_ofSent (sent : Bytes) : written (ofSent sent) = sent := by
  cases sent <;> simp [written, ofSent]

section

variable {σ ε : Type} {facility : Facility σ ε} {args : List Bytes} {sink : Sink} {state : σ}

/-- A failed write ends a hand-over before the flush. -/
theorem handOver_of_write_error {fault : WriteFault}
    (h : (sink.writeLine (echoBytes args)).result = .error fault) :
    handOver facility args sink state =
      ⟨Event.ofSent (sink.writeLine (echoBytes args)).sent, .error (.writing fault),
        (sink.writeLine (echoBytes args)).sink, state⟩ := by simp [handOver, h]

/-- A failed flush ends a hand-over before the facility is called. -/
theorem handOver_of_flush_error {fault : FlushFault} {flushed : Sink}
    (h : (sink.writeLine (echoBytes args)).result = .ok ())
    (hflush : (sink.writeLine (echoBytes args)).sink.flush = (.error fault, flushed)) :
    handOver facility args sink state =
      ⟨Event.ofSent (sink.writeLine (echoBytes args)).sent ++ [.flushed],
        .error (.flushing fault), flushed, state⟩ := by simp [handOver, h, hflush]

/-- Once the line is out, the facility is called, and its answer is the result. -/
theorem handOver_of_flush_ok {flushed : Sink}
    (h : (sink.writeLine (echoBytes args)).result = .ok ())
    (hflush : (sink.writeLine (echoBytes args)).sink.flush = (.ok (), flushed)) :
    handOver facility args sink state =
      ⟨Event.ofSent (sink.writeLine (echoBytes args)).sent ++ [.flushed, .called args],
        (facility state args).2.mapError .facility, flushed, (facility state args).1⟩ := by
  simp [handOver, h, hflush]

end

@[simp] theorem length_handOvers {σ ε : Type} (facility : Facility σ ε) (steps : List (List Bytes))
    (sink : Sink) (state : σ) : (handOvers facility steps sink state).length = steps.length := by
  induction steps generalizing sink state with
  | nil => rfl
  | cons args steps ih => simp [handOvers, ih]

end Handoff

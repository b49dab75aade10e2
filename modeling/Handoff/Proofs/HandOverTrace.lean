import Handoff.HandOver
import Handoff.Proofs.OneShotWrite

/-!
# The trace of one hand-over

`HandOver.Course` lists the three ways a hand-over can take: the line is cut at the limit, the line
is out but its flush fails, or the facility is called. `handOver_course` says that there is no
other way, and each way fixes events, result, sink and state. What a hand-over does is read off it:
`handOver_trace` is the law for all sinks whose chunks are not empty, at any offset, with any
interruptions pending and any flushes bound to fail.
-/

namespace Handoff

/-! ### What is seen of a hand-over -/

/-- The argument lists that the facility was called with. -/
def Event.calls (events : List Event) : List (List Bytes) :=
  events.filterMap fun
    | .called args => some args
    | .wrote _ | .flushed => none

/-- Whether a hand-over wrote all of the line for some arguments. -/
def HandOver.TookLine {σ ε : Type} (done : HandOver σ ε) (args : List Bytes) : Prop :=
  Event.written done.events = echoLine args

instance {σ ε : Type} (done : HandOver σ ε) (args : List Bytes) :
    Decidable (done.TookLine args) :=
  inferInstanceAs (Decidable (Event.written done.events = echoLine args))

namespace Sink

/-- The fault of the next flush, if it is bound to fail. -/
def nextFlushFault? (s : Sink) : Option FlushFault := s.flushFaults.lookup (s.flushes + 1)

/-- The sink after one more flush. -/
def flushed (s : Sink) : Sink := { s with flushes := s.flushes + 1 }

/-- How much of the line for some arguments is taken. -/
def lineCapacity (s : Sink) (args : List Bytes) : Nat := s.capacity (echoLine args).length

/-- Whether the line for some arguments ends at the limit or before it. -/
def Fits (s : Sink) (args : List Bytes) : Prop := s.lineCapacity args = (echoLine args).length

instance (s : Sink) (args : List Bytes) : Decidable (s.Fits args) :=
  inferInstanceAs (Decidable (s.lineCapacity args = (echoLine args).length))

variable {s t : Sink} {k : Nat} {args : List Bytes}

theorem fits_iff : s.Fits args ↔ ∀ limit ∈ s.limit, s.offset + (echoLine args).length ≤ limit :=
  capacity_eq_self_iff (by simp)

theorem lineCapacity_lt_of_not_fits (h : ¬ s.Fits args) :
    s.lineCapacity args < (echoLine args).length :=
  Nat.lt_of_le_of_ne (s.capacity_le _) h

theorem flush_eq (s : Sink) :
    s.flush = ((match s.nextFlushFault? with | some fault => .error fault | none => .ok ()),
      s.flushed) := by
  simp only [flush, nextFlushFault?, flushed]
  cases s.flushFaults.lookup (s.flushes + 1) <;> rfl

theorem Moved.script (h : Moved s k t) : t.limit = s.limit ∧ t.refusal = s.refusal ∧
    t.flushFaults = s.flushFaults ∧ t.offset = s.offset + k ∧ t.flushes = s.flushes := by
  simpa only [Sink.unsliced, advance, Sink.mk.injEq, true_and, and_true] using h.unsliced

theorem Moved.nextFlushFault? (h : Moved s k t) : t.nextFlushFault? = s.nextFlushFault? := by
  obtain ⟨-, -, hfaults, -, hflushes⟩ := h.script
  rw [Sink.nextFlushFault?, hfaults, hflushes, Sink.nextFlushFault?]

theorem Moved.flushed (h : Moved s k t) : Moved s.flushed k t.flushed where
  unsliced := congrArg Sink.flushed h.unsliced
  chunk := h.chunk

/-- The bytes, the answer and the sink that the line for some arguments comes to. -/
theorem writeLine_echoBytes (hs : s.Advancing) (args : List Bytes) :
    (s.writeLine (echoBytes args)).sent = (echoLine args).take (s.lineCapacity args) ∧
    (s.writeLine (echoBytes args)).result =
      (if s.Fits args then .ok () else .error s.refusal) ∧
    Moved s (s.lineCapacity args) (s.writeLine (echoBytes args)).sink := by
  obtain ⟨hsent, hresult, hsink⟩ :=
    Outcome.unsliced_eq_iff.mp (writeLine_unsliced hs (echoBytes args))
  exact ⟨hsent, hresult, hsink, chunk_writeLine s _⟩

end Sink

open Sink (Moved)

/-- The three courses that a hand-over can take. -/
inductive HandOver.Course {σ ε : Type} (facility : Facility σ ε) (args : List Bytes) (sink : Sink)
    (state : σ) : HandOver σ ε → Prop
  /-- The line is cut at the limit, and nothing else happens. -/
  | refused {next : Sink} (hcut : ¬ sink.Fits args)
      (hmoved : Moved sink (sink.lineCapacity args) next) :
      Course facility args sink state
        ⟨Event.ofSent ((echoLine args).take (sink.lineCapacity args)),
          .error (.writing sink.refusal), next, state⟩
  /-- The line is out and its flush fails. -/
  | unflushed {next : Sink} {fault : FlushFault} (hfits : sink.Fits args)
      (hflush : sink.nextFlushFault? = some fault)
      (hmoved : Moved sink.flushed (echoLine args).length next) :
      Course facility args sink state
        ⟨[.wrote (echoLine args), .flushed], .error (.flushing fault), next, state⟩
  /-- The line is out and flushed, and the facility answers. -/
  | delegated {next : Sink} (hfits : sink.Fits args) (hflush : sink.nextFlushFault? = none)
      (hmoved : Moved sink.flushed (echoLine args).length next) :
      Course facility args sink state
        ⟨[.wrote (echoLine args), .flushed, .called args],
          (facility state args).2.mapError .facility, next, (facility state args).1⟩

section

variable {σ ε : Type} {facility : Facility σ ε} {args : List Bytes} {sink : Sink} {state : σ}
  {done : HandOver σ ε}

@[simp] theorem echoLine_ne_nil (args : List Bytes) : echoLine args ≠ [] := by simp [echoLine]

theorem Event.ofSent_echoLine (args : List Bytes) :
    Event.ofSent (echoLine args) = [.wrote (echoLine args)] := by
  rw [Event.ofSent, if_neg]
  simp

/-- Every hand-over takes one of the three courses. -/
theorem handOver_course (facility : Facility σ ε) (args : List Bytes) (hsink : sink.Advancing)
    (state : σ) :
    HandOver.Course facility args sink state (handOver facility args sink state) := by
  obtain ⟨hsent, hresult, hmoved⟩ := Sink.writeLine_echoBytes hsink args
  by_cases hfits : sink.Fits args
  · rw [if_pos hfits] at hresult
    rw [hfits] at hmoved
    rw [hfits, List.take_length] at hsent
    have hflush := Sink.flush_eq (sink.writeLine (echoBytes args)).sink
    rw [hmoved.nextFlushFault?] at hflush
    cases hfault : sink.nextFlushFault? with
    | some fault =>
      rw [hfault] at hflush
      rw [handOver_of_flush_error hresult hflush, hsent, Event.ofSent_echoLine]
      exact .unflushed hfits hfault hmoved.flushed
    | none =>
      rw [hfault] at hflush
      rw [handOver_of_flush_ok hresult hflush, hsent, Event.ofSent_echoLine]
      exact .delegated hfits hfault hmoved.flushed
  · rw [if_neg hfits] at hresult
    rw [handOver_of_write_error hresult, hsent]
    exact .refused hfits hmoved

/-- Without a limit all of the line is written, and only the flush can fail. -/
theorem handOver_events_of_unlimited (hsink : sink.Advancing) (hlimit : sink.limit = none) :
    (handOver facility args sink state).events = .wrote (echoLine args) :: .flushed ::
      (if sink.nextFlushFault? = none then [.called args] else []) := by
  have hcourse := handOver_course facility args hsink state
  generalize handOver facility args sink state = done at hcourse
  cases hcourse with
  | refused hcut => exact absurd (Sink.fits_iff.mpr (by simp [hlimit])) hcut
  | unflushed _ hflush => rw [hflush, if_neg (by simp)]
  | delegated _ hflush => rw [hflush, if_pos rfl]

/-- Each hand-over of a run takes one of the courses, from where the one before it has ended. -/
inductive HandOver.Courses {σ ε : Type} (facility : Facility σ ε) :
    List (List Bytes) → Sink → σ → List (HandOver σ ε) → Prop
  | nil {sink : Sink} {state : σ} : Courses facility [] sink state []
  | cons {args : List Bytes} {steps : List (List Bytes)} {sink : Sink} {state : σ}
      {done : HandOver σ ε} {run : List (HandOver σ ε)}
      (hfirst : Course facility args sink state done)
      (hrest : Courses facility steps done.sink done.state run) :
      Courses facility (args :: steps) sink state (done :: run)

theorem HandOver.Course.chunk (h : Course facility args sink state done) :
    done.sink.chunk = sink.chunk := by
  cases h with
  | refused _ hmoved | unflushed _ _ hmoved | delegated _ _ hmoved => exact hmoved.chunk

theorem handOvers_courses (facility : Facility σ ε) (steps : List (List Bytes))
    (hsink : sink.Advancing) (state : σ) :
    HandOver.Courses facility steps sink state (handOvers facility steps sink state) := by
  induction steps generalizing sink state with
  | nil => exact .nil
  | cons args steps ih =>
    have hfirst := handOver_course facility args hsink state
    exact .cons hfirst (ih (hsink.of_chunk hfirst.chunk) _)

theorem HandOver.Course.tookLine_iff (h : Course facility args sink state done) :
    done.TookLine args ↔ sink.Fits args := by
  cases h with
  | refused hcut =>
    refine iff_of_false (fun htook => ?_) hcut
    have hlength := congrArg List.length htook
    have hlt := Sink.lineCapacity_lt_of_not_fits hcut
    simp only [Event.written_ofSent, List.length_take] at hlength
    omega
  | unflushed hfits | delegated hfits => exact iff_of_true (by simp [TookLine, Event.written]) hfits

end

/-- **The trace of one hand-over.** The bytes are a prefix of the line, and all of it exactly if it
fits under the limit. Then one flush follows, and one call with the same arguments if the flush is
not bound to fail; nothing follows a cut line. The facility alone answers if it was called; else the
result is the fault with its context, and the state is what it was. -/
theorem handOver_trace {σ ε : Type} (facility : Facility σ ε) (describe : ε → Report)
    (args : List Bytes) (sink : Sink) (state : σ) (hsink : sink.Advancing) :
    let done := handOver facility args sink state
    Event.written done.events <+: echoLine args ∧
    (done.TookLine args ↔ ∀ limit ∈ sink.limit, sink.offset + (echoLine args).length ≤ limit) ∧
    done.events = Event.ofSent (Event.written done.events) ++
      (if done.TookLine args then
        .flushed :: (if sink.nextFlushFault? = none then [.called args] else [])
      else []) ∧
    done.sink.flushes = sink.flushes + (if done.TookLine args then 1 else 0) ∧
    done.result.mapError (fun failure => (failure.report describe).chain) =
      (if done.TookLine args then
        match sink.nextFlushFault? with
        | none => (facility state args).2.mapError fun error => (describe error).chain
        | some fault => .error ["flushing output", fault.message]
      else .error ["writing arguments to output", sink.refusal.message]) ∧
    done.state = (if done.TookLine args ∧ sink.nextFlushFault? = none
      then (facility state args).1 else state) := by
  intro done
  have hcourse : HandOver.Course facility args sink state done :=
    handOver_course facility args hsink state
  have htook := hcourse.tookLine_iff
  clear_value done
  rw [← Sink.fits_iff]
  cases hcourse with
  | refused hcut hmoved =>
    have hnot := mt htook.mp hcut
    obtain ⟨-, -, -, -, hflushes⟩ := hmoved.script
    simp only [if_neg hnot, Event.written_ofSent]
    refine ⟨List.take_prefix _ _, htook, (List.append_nil _).symm, hflushes, rfl, ?_⟩
    rw [if_neg (fun h => hnot h.1)]
  | unflushed hfits hflush hmoved =>
    obtain ⟨-, -, -, -, hflushes⟩ := hmoved.script
    simp only [if_pos (htook.mpr hfits), hflush]
    refine ⟨?_, htook, ?_, hflushes, rfl, ?_⟩
    · simp [Event.written]
    · simp [Event.written, Event.ofSent_echoLine]
    · simp
  | delegated hfits hflush hmoved =>
    obtain ⟨-, -, -, -, hflushes⟩ := hmoved.script
    simp only [if_pos (htook.mpr hfits), hflush]
    refine ⟨?_, htook, ?_, hflushes, ?_, ?_⟩
    · simp [Event.written]
    · simp [Event.written, Event.ofSent_echoLine]
    · cases (facility state args).2 <;> rfl
    · simp [htook.mpr hfits]

/-- A line that ends at the limit, sent in pieces and with interruptions, of an argument that is
not UTF-8. -/
theorem handOver_trace_at_limit :
    let sink : Sink :=
      { Sink.unbounded with limit := some 5, chunk := some 2, interrupts := [0, 1, 1, 4] }
    let done := handOver Facility.scripted [[0x61, 0xff]] sink [.ok 7, .ok 8]
    sink.Advancing ∧
    done.events =
      [.wrote [0x61, 0xef, 0xbf, 0xbd, 0x0a], .flushed, .called [[0x61, 0xff]]] ∧
    done.result.mapError (fun failure => (failure.report id).chain) = .ok 7 ∧
    done.state = [.ok 8] := by
  intro sink done
  have hsink : sink.Advancing := by simp [sink, Sink.Advancing]
  obtain ⟨-, hfits, hevents, -, hresult, hstate⟩ :=
    handOver_trace Facility.scripted id [[0x61, 0xff]] sink [.ok 7, .ok 8] hsink
  have htook : done.TookLine [[0x61, 0xff]] := hfits.mpr (by decide)
  have hflush : sink.nextFlushFault? = none := rfl
  refine ⟨hsink, ?_, ?_, ?_⟩
  · rw [hevents, if_pos htook, if_pos hflush, show Event.written done.events = _ from htook]
    decide
  · rw [hresult, if_pos htook]
    rfl
  · rw [hstate, if_pos ⟨htook, hflush⟩]
    rfl

end Handoff

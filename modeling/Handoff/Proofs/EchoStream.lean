import Handoff.Proofs.HandOverTrace

/-!
# The bytes of a run

Hand-overs that share a sink send one stream: the lines one after another, cut once at the limit.
The invariant is the offset, which is the length of what was sent. A line that is cut leaves the
sink full, and a full sink refuses every later line without taking a byte
(`HandOver.Courses.of_isFull`). Which lines get through depends on the limit, the offset and the
lines only; faults of flushes and the facility have no part in it
(`HandOver.Courses.writes_congr`).
-/

namespace Handoff

/-- The fault that cut the line, if it was cut. -/
def HandOver.writeFault? {σ ε : Type} (done : HandOver σ ε) : Option WriteFault :=
  match done.result with
  | .error (.writing fault) => some fault
  | .error (.flushing _) | .error (.facility _) | .ok _ => none

variable {σ ε : Type} {facility : Facility σ ε} {args : List Bytes} {steps : List (List Bytes)}
  {sink s t : Sink} {state : σ} {done : HandOver σ ε} {run : List (HandOver σ ε)}

/-! ### One hand-over -/

theorem HandOver.writeFault?_mapError {answer : Except ε Int32} {events : List Event} :
    HandOver.writeFault? ⟨events, answer.mapError .facility, sink, state⟩ = none := by
  cases answer <;> rfl

namespace HandOver.Course

theorem writes (h : Course facility args sink state done) :
    Event.written done.events = (echoLine args).take (sink.lineCapacity args) ∧
      done.writeFault? = if sink.Fits args then none else some sink.refusal := by
  cases h with
  | refused hcut => exact ⟨Event.written_ofSent _, (if_neg hcut).symm⟩
  | unflushed hfits =>
    rw [if_pos hfits, hfits, List.take_length]
    exact ⟨by simp [Event.written], rfl⟩
  | delegated hfits =>
    rw [if_pos hfits, hfits, List.take_length]
    exact ⟨by simp [Event.written], writeFault?_mapError⟩

theorem advances (h : Course facility args sink state done) :
    done.sink.limit = sink.limit ∧ done.sink.refusal = sink.refusal ∧
      done.sink.offset = sink.offset + sink.lineCapacity args := by
  cases h with
  | refused _ hmoved =>
    obtain ⟨hlimit, hrefusal, -, hoffset, -⟩ := hmoved.script
    exact ⟨hlimit, hrefusal, hoffset⟩
  | unflushed hfits _ hmoved | delegated hfits _ hmoved =>
    obtain ⟨hlimit, hrefusal, -, hoffset, -⟩ := hmoved.script
    exact ⟨hlimit, hrefusal, by rw [hfits]; exact hoffset⟩

theorem isFull_of_not_fits (h : Course facility args sink state done) (hcut : ¬ sink.Fits args) :
    done.sink.isFull = true := by
  obtain ⟨hlimit, -, hoffset⟩ := h.advances
  have hlt := Sink.lineCapacity_lt_of_not_fits hcut
  cases hL : sink.limit with
  | none => exact absurd (Sink.capacity_of_unlimited hL _) (Nat.ne_of_lt hlt)
  | some limit =>
    have hcap : sink.lineCapacity args = min (echoLine args).length (limit - sink.offset) :=
      Sink.capacity_of_limit hL _
    rw [Sink.isFull, hlimit, hL, hoffset]
    simp only [Option.any_some, decide_eq_true_eq]
    omega

end HandOver.Course

theorem Sink.not_fits_of_isFull (h : s.isFull = true) (args : List Bytes) : ¬ s.Fits args := by
  intro hfits
  have hzero : s.lineCapacity args = 0 := capacity_of_isFull h _
  have hlength := hfits.symm.trans hzero
  simp at hlength

/-- A hand-over to a full sink does nothing but fail. -/
theorem HandOver.Course.of_isFull (h : Course facility args sink state done)
    (hfull : sink.isFull = true) :
    done.events = [] ∧ done.result = .error (.writing sink.refusal) ∧
      done.sink.flushes = sink.flushes ∧ done.state = state ∧ done.sink.isFull = true := by
  have hnot := Sink.not_fits_of_isFull hfull args
  have hstill := h.isFull_of_not_fits hnot
  cases h with
  | refused _ hmoved =>
    obtain ⟨-, -, -, -, hflushes⟩ := hmoved.script
    have hzero : sink.lineCapacity args = 0 := Sink.capacity_of_isFull hfull _
    refine ⟨?_, rfl, hflushes, rfl, hstill⟩
    rw [hzero]
    rfl
  | unflushed hfits | delegated hfits => exact absurd hfits hnot

/-! ### A run -/

namespace HandOver.Courses

/-- A full sink stays full, and nothing is done any more. -/
theorem of_isFull (H : Courses facility steps sink state run) (hfull : sink.isFull = true) :
    ∀ done ∈ run, done.events = [] ∧ done.result = .error (.writing sink.refusal) ∧
      done.sink.flushes = sink.flushes ∧ done.state = state := by
  induction H with
  | nil => intro done hdone; cases hdone
  | cons hfirst _ ih =>
    obtain ⟨hevents, hresult, hflushes, hstate, hstill⟩ := hfirst.of_isFull hfull
    obtain ⟨-, hrefusal, -⟩ := hfirst.advances
    intro done hdone
    rcases List.mem_cons.mp hdone with rfl | hdone
    · exact ⟨hevents, hresult, hflushes, hstate⟩
    · have hlater := ih hstill done hdone
      rwa [hrefusal, hflushes, hstate] at hlater

/-- A run sends what one write of all its lines would send. -/
theorem written (H : Courses facility steps sink state run) :
    run.flatMap (fun done => Event.written done.events) =
      (sink.accept (steps.flatMap echoLine)).sent := by
  induction H with
  | nil => simp
  | @cons args steps sink state done run hfirst _ ih =>
    obtain ⟨hlimit, -, hoffset⟩ := hfirst.advances
    rw [List.flatMap_cons, List.flatMap_cons, hfirst.writes.1, ih]
    by_cases hfits : sink.Fits args
    · rw [Sink.accept_append_of_eq hfits, hfits, List.take_length]
      rw [hfits] at hoffset
      exact congrArg (echoLine args ++ ·) <|
        Sink.sent_accept_congr (t := sink.advance (echoLine args).length) hlimit hoffset _
    · have hempty (bytes : Bytes) : (done.sink.accept bytes).sent = [] := by
        rw [Sink.accept, Sink.capacity_of_isFull (hfirst.isFull_of_not_fits hfits), List.take_zero]
      rw [Sink.accept_append_of_lt (Sink.lineCapacity_lt_of_not_fits hfits), hempty,
        List.append_nil]
      rfl

/-- The course of one hand-over in a run: its line fits at the sink that it meets if and only if the
lines up to it end at the limit or before it. -/
theorem course_at (H : Courses facility steps sink state run) {i : Nat}
    (hargs : steps[i]? = some args) (hdone : run[i]? = some done) :
    ∃ (met : Sink) (before : σ), Course facility args met before done ∧
      (met.Fits args ↔ ∀ limit ∈ sink.limit,
        sink.offset + ((steps.take (i + 1)).flatMap echoLine).length ≤ limit) := by
  induction H generalizing i with
  | nil => cases hdone
  | @cons first steps sink state _ run hfirst _ ih =>
    cases i with
    | zero =>
      cases hargs
      cases hdone
      exact ⟨sink, state, hfirst, by simpa using Sink.fits_iff⟩
    | succ i =>
      obtain ⟨met, before, hcourse, hfits⟩ := ih hargs hdone
      obtain ⟨hlimit, -, hoffset⟩ := hfirst.advances
      refine ⟨met, before, hcourse, hfits.trans ?_⟩
      rw [hlimit, hoffset, List.take_succ_cons, List.flatMap_cons, List.length_append]
      have hpos : 0 < ((steps.take (i + 1)).flatMap echoLine).length := by
        cases steps with
        | nil => cases hargs
        | cons =>
          rw [List.take_succ_cons, List.flatMap_cons, List.length_append, length_echoLine]
          omega
      cases hL : sink.limit with
      | none => simp
      | some limit =>
        have hcap : sink.lineCapacity first = min (echoLine first).length (limit - sink.offset) :=
          Sink.capacity_of_limit hL _
        simp only [Option.mem_def, Option.some.injEq, forall_eq']
        omega

/-- Once a line is cut, every later hand-over does nothing but fail. -/
theorem pairwise_cut (H : Courses facility steps sink state run) :
    run.Pairwise fun earlier later => earlier.writeFault? ≠ none →
      later.events = [] ∧ later.result = .error (.writing sink.refusal) ∧
        later.sink.flushes = earlier.sink.flushes ∧ later.state = earlier.state := by
  induction H with
  | nil => exact .nil
  | @cons args steps sink state done run hfirst hrest ih =>
    rw [← hfirst.advances.2.1]
    refine .cons (fun later hlater hcut => ?_) ih
    have hnot : ¬ sink.Fits args := fun hfits => hcut (hfirst.writes.2.trans (if_pos hfits))
    exact hrest.of_isFull (hfirst.isFull_of_not_fits hnot) later hlater

/-- What is sent and what is cut depends on the limit, the refusal and the offset only. -/
theorem writes_congr {σ' ε' : Type} {facility' : Facility σ' ε'} {state' : σ'}
    {run' : List (HandOver σ' ε')} (H : Courses facility steps s state run)
    (H' : Courses facility' steps t state' run') (hlimit : s.limit = t.limit)
    (hrefusal : s.refusal = t.refusal) (hoffset : s.offset = t.offset) :
    run.map (fun done => (Event.written done.events, done.writeFault?)) =
      run'.map (fun done => (Event.written done.events, done.writeFault?)) := by
  induction H generalizing t state' run' with
  | nil => cases H'; rfl
  | @cons args steps s state done run hfirst _ ih =>
    cases H' with
    | cons hfirst' hrest' =>
      have hcap : s.lineCapacity args = t.lineCapacity args :=
        Sink.capacity_congr hlimit hoffset _
      have hfits : s.Fits args = t.Fits args := by rw [Sink.Fits, Sink.Fits, hcap]
      obtain ⟨hlimit₁, hrefusal₁, hoffset₁⟩ := hfirst.advances
      obtain ⟨hlimit₂, hrefusal₂, hoffset₂⟩ := hfirst'.advances
      rw [List.map_cons, List.map_cons, hfirst.writes.1, hfirst.writes.2, hfirst'.writes.1,
        hfirst'.writes.2, hcap, ite_congr hfits (fun _ => rfl) (fun _ => congrArg some hrefusal)]
      exact congrArg _ <| ih hrest' (by rw [hlimit₁, hlimit₂, hlimit])
        (by rw [hrefusal₁, hrefusal₂, hrefusal]) (by rw [hoffset₁, hoffset₂, hoffset, hcap])

end HandOver.Courses

/-- **The stream of a run.** The bytes taken over all hand-overs are the lines one after another,
up to the limit. A hand-over gets past its write if and only if the lines up to its own fit; after
one that does not, no later one takes a byte, flushes or calls the facility. Neither the faults of
flushes nor the facility change what is taken and what is cut. -/
theorem handOvers_stream (facility : Facility σ ε) (steps : List (List Bytes)) (sink : Sink)
    (state : σ) (hsink : sink.Advancing) :
    let run := handOvers facility steps sink state
    let lines := steps.flatMap echoLine
    run.flatMap (fun done => Event.written done.events) =
      (match sink.limit with
        | none => lines
        | some limit => lines.take (min (limit - sink.offset) lines.length)) ∧
    (∀ i done, run[i]? = some done →
      (done.writeFault? = none ↔ ∀ limit ∈ sink.limit,
        sink.offset + ((steps.take (i + 1)).flatMap echoLine).length ≤ limit)) ∧
    (run.Pairwise fun earlier later => earlier.writeFault? ≠ none →
      later.events = [] ∧ later.result = .error (.writing sink.refusal) ∧
        later.sink.flushes = earlier.sink.flushes ∧ later.state = earlier.state) ∧
    ∀ (σ' ε' : Type) (facility' : Facility σ' ε') (state' : σ')
      (flushFaults : List (Nat × FlushFault)),
      (handOvers facility' steps { sink with flushFaults } state').map
          (fun done => (Event.written done.events, done.writeFault?)) =
        run.map (fun done => (Event.written done.events, done.writeFault?)) := by
  intro run lines
  have H := handOvers_courses facility steps hsink state
  refine ⟨?_, fun i done hdone => ?_, H.pairwise_cut, fun σ' ε' facility' state' flushFaults => ?_⟩
  · have hsent := H.written
    rw [Sink.accept] at hsent
    cases hlimit : sink.limit with
    | none => rw [hsent, Sink.capacity_of_unlimited hlimit, List.take_length]
    | some limit => rw [hsent, Sink.capacity_of_limit hlimit, Nat.min_comm]
  · obtain ⟨hi, -⟩ := List.getElem?_eq_some_iff.mp hdone
    rw [length_handOvers] at hi
    obtain ⟨met, before, hcourse, hfits⟩ := H.course_at (List.getElem?_eq_getElem hi) hdone
    rw [← hfits, hcourse.writes.2]
    simp
  · have hother : ({ sink with flushFaults } : Sink).Advancing := hsink
    exact (handOvers_courses facility' steps hother state').writes_congr H rfl rfl rfl

/-- A flush that fails, an error of the facility, and a cut inside a character of the third line. -/
theorem handOvers_stream_cut :
    let sink : Sink := { Sink.unbounded with
      limit := some 5, chunk := some 1, interrupts := [0, 3, 5],
      flushFaults := [(1, .interrupted)] }
    let steps : List (List Bytes) := [[[0x61]], [], [[0x62, 0xc3, 0xa9]], [[0x63]]]
    let run := handOvers Facility.scripted steps sink [.error (.ofMessage "no tests found")]
    sink.Advancing ∧
    run.flatMap (fun done => Event.written done.events) = [0x61, 0x0a, 0x0a, 0x62, 0xc3] ∧
    (∀ done, run[1]? = some done → done.writeFault? = none) ∧
    (∀ done, run[2]? = some done → done.writeFault? ≠ none) := by
  intro sink steps run
  have hsink : sink.Advancing := by simp [sink, Sink.Advancing]
  obtain ⟨hbytes, hthrough, -, -⟩ := handOvers_stream Facility.scripted steps sink
    [.error (.ofMessage "no tests found")] hsink
  refine ⟨hsink, hbytes.trans (by decide), fun done hdone => ?_, fun done hdone => ?_⟩
  · exact (hthrough 1 done hdone).mpr (by decide)
  · exact mt (hthrough 2 done hdone).mp (by decide)

end Handoff

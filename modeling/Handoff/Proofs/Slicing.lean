import Handoff.Proofs.HandOverTrace

/-!
# How a sink cuts its work is not seen

Chunks and interruptions only decide into how many writes a line falls. Two sinks that agree up to
`Sink.unsliced` are taken to two such sinks by a hand-over, with the same events, result and state
(`handOver_unsliced_congr`), and so by any number of hand-overs (`handOvers_unsliced_congr`).
Interruptions may be pending in any number at the same offset, at the limit or beyond it, and may
be left over from one hand-over to the next.
-/

namespace Handoff

variable {σ ε : Type} {facility : Facility σ ε} {args : List Bytes} {sink s t : Sink} {state : σ}
  {done : HandOver σ ε}

/-- A hand-over without what tells how its sink cuts the work. -/
def HandOver.unsliced (done : HandOver σ ε) : HandOver σ ε :=
  { done with sink := done.sink.unsliced }

theorem HandOver.unsliced_eq_iff {done other : HandOver σ ε} :
    done.unsliced = other.unsliced ↔ done.events = other.events ∧ done.result = other.result ∧
      done.sink.unsliced = other.sink.unsliced ∧ done.state = other.state := by
  simp only [unsliced, HandOver.mk.injEq]

theorem advancing_handOver (hsink : sink.Advancing) :
    (handOver facility args sink state).sink.Advancing :=
  hsink.of_chunk (handOver_course facility args hsink state).chunk

theorem Sink.flush_unsliced_congr (h : s.unsliced = t.unsliced) :
    s.flush.1 = t.flush.1 ∧ s.flush.2.unsliced = t.flush.2.unsliced := by
  have hfaults : s.nextFlushFault? = t.nextFlushFault? := (congrArg nextFlushFault? h :)
  rw [flush_eq, flush_eq, hfaults]
  exact ⟨rfl, (congrArg flushed h :)⟩

/-- The simulation of one hand-over: it depends on the sink up to `Sink.unsliced` only. -/
theorem handOver_unsliced_congr (facility : Facility σ ε) (args : List Bytes) (state : σ)
    (hs : s.Advancing) (ht : t.Advancing) (h : s.unsliced = t.unsliced) :
    (handOver facility args s state).unsliced = (handOver facility args t state).unsliced := by
  have hline :
      (s.writeLine (echoBytes args)).unsliced = (t.writeLine (echoBytes args)).unsliced := by
    rw [Sink.writeLine_unsliced hs, Sink.writeLine_unsliced ht, Sink.unsliced_accept,
      Sink.unsliced_accept, h]
  obtain ⟨hsent, hresult, hsink⟩ := Sink.Outcome.unsliced_eq_iff.mp hline
  cases hwrite : (t.writeLine (echoBytes args)).result with
  | error fault =>
    rw [handOver_of_write_error (hresult.trans hwrite), handOver_of_write_error hwrite,
      HandOver.unsliced_eq_iff]
    exact ⟨congrArg Event.ofSent hsent, rfl, hsink, rfl⟩
  | ok =>
    obtain ⟨hsame, hnext⟩ := Sink.flush_unsliced_congr hsink
    cases hflush : (t.writeLine (echoBytes args)).sink.flush.1 with
    | error fault =>
      rw [handOver_of_flush_error (hresult.trans hwrite) (Prod.ext (hsame.trans hflush) rfl),
        handOver_of_flush_error hwrite (Prod.ext hflush rfl), HandOver.unsliced_eq_iff, hsent]
      exact ⟨rfl, rfl, hnext, rfl⟩
    | ok =>
      rw [handOver_of_flush_ok (hresult.trans hwrite) (Prod.ext (hsame.trans hflush) rfl),
        handOver_of_flush_ok hwrite (Prod.ext hflush rfl), HandOver.unsliced_eq_iff, hsent]
      exact ⟨rfl, rfl, hnext, rfl⟩

/-- The simulation of a run: the two sinks stay alike from one hand-over to the next. -/
theorem handOvers_unsliced_congr (facility : Facility σ ε) (steps : List (List Bytes)) (state : σ)
    (hs : s.Advancing) (ht : t.Advancing) (h : s.unsliced = t.unsliced) :
    (handOvers facility steps s state).map HandOver.unsliced =
      (handOvers facility steps t state).map HandOver.unsliced := by
  induction steps generalizing s t state with
  | nil => rfl
  | cons args steps ih =>
    have hfirst := handOver_unsliced_congr facility args state hs ht h
    obtain ⟨-, -, hsink, hstate⟩ := HandOver.unsliced_eq_iff.mp hfirst
    simp only [handOvers, List.map_cons]
    rw [hfirst, hstate, ih _ (advancing_handOver hs) (advancing_handOver ht) hsink]

/-- **Slicing is not seen.** A run with chunks and interruptions gives, hand-over by hand-over, the
events, the result and the state of the run without them, and leaves its sink at the same offset
after the same number of flushes. -/
theorem handOvers_slicing (facility : Facility σ ε) (steps : List (List Bytes)) (sink : Sink)
    (state : σ) (hsink : sink.Advancing) :
    (handOvers facility steps sink state).map
        (fun done => (done.events, done.result, done.state, done.sink.offset, done.sink.flushes)) =
      (handOvers facility steps { sink with chunk := none, interrupts := [] } state).map
        (fun done =>
          (done.events, done.result, done.state, done.sink.offset, done.sink.flushes)) := by
  have hwhole : ({ sink with chunk := none, interrupts := [] } : Sink).Advancing :=
    fun size hsize => nomatch hsize
  have hrun := handOvers_unsliced_congr facility steps state hsink hwhole rfl
  have hseen := congrArg (List.map fun done =>
    (done.events, done.result, done.state, done.sink.offset, done.sink.flushes)) hrun
  rw [List.map_map, List.map_map] at hseen
  exact hseen

/-- A cut, two interruptions and the limit at one offset, inside a character of the second line. -/
theorem handOvers_slicing_same_offset :
    let sink : Sink := { Sink.unbounded with
      limit := some 5, refusal := .fault .brokenPipe, chunk := some 1,
      interrupts := [0, 2, 5, 5, 9] }
    let steps : List (List Bytes) := [[[0x61, 0x62]], [[0x63, 0xc3, 0xa9]], []]
    sink.Advancing ∧
    (handOvers Facility.scripted steps sink [.ok 0]).map
        (fun done => (done.events, done.result, done.state, done.sink.offset, done.sink.flushes)) =
      (handOvers Facility.scripted steps
        { Sink.unbounded with limit := some 5, refusal := .fault .brokenPipe } [.ok 0]).map
        (fun done =>
          (done.events, done.result, done.state, done.sink.offset, done.sink.flushes)) := by
  intro sink steps
  have hsink : sink.Advancing := by simp [sink, Sink.Advancing]
  exact ⟨hsink, handOvers_slicing Facility.scripted steps sink [.ok 0] hsink⟩

end Handoff

import Handoff.Proofs.EchoStream

/-!
# The order of delegation

Three counters run through hand-overs that share a sink and a facility: the bytes taken, the
flushes asked for and the calls of the facility. A cut line moves only the first, a failed flush
the first two. `HandOver.accepted` and `HandOver.delivered` pick out the hand-overs that move the
second and the third, and each run lemma ties one counter to its list: the flush faults are those
of the script from the count at the start on (`HandOver.Courses.flushFaults_accepted`), the results
and the last state are those of calling the facility for the delivered lines and for nothing else
(`HandOver.Courses.results_delivered`, `HandOver.Courses.stateAfter_eq`).
-/

namespace Handoff

variable {σ ε : Type}

/-! ### A facility on its own -/

/-- The state after some calls. -/
def Facility.after (facility : Facility σ ε) (state : σ) (calls : List (List Bytes)) : σ :=
  calls.foldl (fun state args => (facility state args).1) state

/-- The answers to some calls. -/
def Facility.answers (facility : Facility σ ε) : σ → List (List Bytes) → List (Except ε Int32)
  | _, [] => []
  | state, args :: calls =>
    (facility state args).2 :: answers facility (facility state args).1 calls

/-- A script gives its answers one by one, and the same error ever after. -/
theorem Facility.answers_scripted (script : List (Except Report Int32)) {calls : List (List Bytes)}
    {k : Nat} (hk : k < calls.length) :
    (Facility.answers Facility.scripted script calls)[k]? =
      some (script.getD k (.error (.ofMessage "facility script exhausted"))) := by
  induction calls generalizing script k with
  | nil => cases hk
  | cons args calls ih =>
    cases k with
    | zero => cases script <;> rfl
    | succ k =>
      have hlater := ih (scripted script args).1 (Nat.lt_of_succ_lt_succ hk)
      cases script with
      | nil => exact hlater
      | cons answer script => exact hlater

/-! ### What a run delegates -/

namespace HandOver

/-- The fault of the flush, if it failed. -/
def flushFault? (done : HandOver σ ε) : Option FlushFault :=
  match done.result with
  | .error (.flushing fault) => some fault
  | .error (.writing _) | .error (.facility _) | .ok _ => none

/-- Whether a hand-over took all of its line and flushed it. -/
def Delivered (done : HandOver σ ε) (args : List Bytes) : Prop :=
  done.TookLine args ∧ done.flushFault? = none

instance (done : HandOver σ ε) (args : List Bytes) : Decidable (done.Delivered args) :=
  inferInstanceAs (Decidable (done.TookLine args ∧ done.flushFault? = none))

/-- The hand-overs that took all of their line, each with its arguments. -/
def accepted (pairs : List (List Bytes × HandOver σ ε)) : List (List Bytes × HandOver σ ε) :=
  pairs.filter fun pair => pair.2.TookLine pair.1

/-- The hand-overs that took all of their line and flushed it. -/
def delivered (pairs : List (List Bytes × HandOver σ ε)) : List (List Bytes × HandOver σ ε) :=
  pairs.filter fun pair => pair.2.Delivered pair.1

/-- The state after the hand-overs of a run. -/
def stateAfter (state : σ) : List (HandOver σ ε) → σ
  | [] => state
  | done :: run => stateAfter done.state run

variable {facility : Facility σ ε} {args : List Bytes} {steps : List (List Bytes)} {sink : Sink}
  {state : σ} {done : HandOver σ ε} {run : List (HandOver σ ε)}
  {pairs : List (List Bytes × HandOver σ ε)}

theorem flushFault?_mapError {answer : Except ε Int32} {events : List Event} :
    flushFault? ⟨events, answer.mapError .facility, sink, state⟩ = none := by
  cases answer <;> rfl

theorem accepted_cons_of_pos (h : done.TookLine args) :
    accepted ((args, done) :: pairs) = (args, done) :: accepted pairs :=
  List.filter_cons_of_pos (by simpa using h)

theorem accepted_cons_of_neg (h : ¬ done.TookLine args) :
    accepted ((args, done) :: pairs) = accepted pairs :=
  List.filter_cons_of_neg (by simpa using h)

theorem delivered_cons_of_pos (h : done.Delivered args) :
    delivered ((args, done) :: pairs) = (args, done) :: delivered pairs :=
  List.filter_cons_of_pos (by simpa using h)

theorem delivered_cons_of_neg (h : ¬ done.Delivered args) :
    delivered ((args, done) :: pairs) = delivered pairs :=
  List.filter_cons_of_neg (by simpa using h)

/-! ### One hand-over -/

namespace Course

/-- A line that is taken is flushed once, with the next answer of the script; a cut line is not. -/
theorem flushes (h : Course facility args sink state done) :
    done.flushFault? = (if done.TookLine args then sink.nextFlushFault? else none) ∧
      done.events.count .flushed = (if done.TookLine args then 1 else 0) ∧
      done.sink.flushes = sink.flushes + (if done.TookLine args then 1 else 0) ∧
      done.sink.flushFaults = sink.flushFaults := by
  have htook := h.tookLine_iff
  cases h with
  | refused hcut hmoved =>
    obtain ⟨-, -, hfaults, -, hflushes⟩ := hmoved.script
    simp only [if_neg (mt htook.mp hcut)]
    refine ⟨rfl, ?_, hflushes, hfaults⟩
    rw [Event.ofSent]
    split <;> simp
  | unflushed hfits hflush hmoved =>
    obtain ⟨-, -, hfaults, -, hflushes⟩ := hmoved.script
    simp only [if_pos (htook.mpr hfits)]
    exact ⟨hflush.symm, by simp, hflushes, hfaults⟩
  | delegated hfits hflush hmoved =>
    obtain ⟨-, -, hfaults, -, hflushes⟩ := hmoved.script
    simp only [if_pos (htook.mpr hfits)]
    exact ⟨flushFault?_mapError.trans hflush.symm, by simp, hflushes, hfaults⟩

theorem of_delivered (h : Course facility args sink state done) (hd : done.Delivered args) :
    Event.calls done.events = [args] ∧ done.result = (facility state args).2.mapError .facility ∧
      done.state = (facility state args).1 := by
  have htook := h.tookLine_iff
  cases h with
  | refused hcut => exact absurd (htook.mp hd.1) hcut
  | unflushed => cases hd.2
  | delegated => exact ⟨rfl, rfl, rfl⟩

theorem of_not_delivered (h : Course facility args sink state done) (hd : ¬ done.Delivered args) :
    Event.calls done.events = [] ∧ done.state = state := by
  have htook := h.tookLine_iff
  cases h with
  | refused =>
    refine ⟨?_, rfl⟩
    rw [Event.ofSent]
    split <;> rfl
  | unflushed => exact ⟨rfl, rfl⟩
  | delegated hfits => exact absurd ⟨htook.mpr hfits, flushFault?_mapError⟩ hd

end Course

/-! ### A run -/

namespace Courses

theorem take (H : Courses facility steps sink state run) (n : Nat) :
    Courses facility (steps.take n) sink state (run.take n) := by
  induction H generalizing n with
  | nil => simpa using .nil
  | cons hfirst _ ih =>
    cases n with
    | zero => exact .nil
    | succ n => exact .cons hfirst (ih n)

theorem flushFaults_accepted (H : Courses facility steps sink state run) :
    (accepted (steps.zip run)).map (fun pair => pair.2.flushFault?) =
      (List.range (accepted (steps.zip run)).length).map
        fun j => sink.flushFaults.lookup (sink.flushes + j + 1) := by
  induction H with
  | nil => rfl
  | @cons args steps sink state done run hfirst _ ih =>
    obtain ⟨hflush, -, hflushes, hfaults⟩ := hfirst.flushes
    rw [List.zip_cons_cons]
    by_cases htook : done.TookLine args
    · rw [if_pos htook] at hflush hflushes
      rw [accepted_cons_of_pos htook, List.map_cons, List.length_cons, List.range_succ_eq_map,
        List.map_cons, List.map_map, ih, hfaults, hflushes, hflush]
      refine congrArg _ (List.map_congr_left fun j _ => ?_)
      simp only [Function.comp_apply, Nat.succ_eq_add_one, Nat.add_assoc, Nat.add_comm 1 j]
    · rw [if_neg htook, Nat.add_zero] at hflushes
      rw [accepted_cons_of_neg htook, ih, hfaults, hflushes]

theorem calls_eq (H : Courses facility steps sink state run) :
    run.flatMap (fun done => Event.calls done.events) =
      (delivered (steps.zip run)).map Prod.fst := by
  induction H with
  | nil => rfl
  | @cons args steps sink state done run hfirst _ ih =>
    rw [List.zip_cons_cons, List.flatMap_cons, ih]
    by_cases hd : done.Delivered args
    · rw [(hfirst.of_delivered hd).1, delivered_cons_of_pos hd]
      rfl
    · rw [(hfirst.of_not_delivered hd).1, delivered_cons_of_neg hd]
      rfl

theorem results_delivered (H : Courses facility steps sink state run) :
    (delivered (steps.zip run)).map (fun pair => pair.2.result) =
      (facility.answers state ((delivered (steps.zip run)).map Prod.fst)).map
        (Except.mapError .facility) := by
  induction H with
  | nil => rfl
  | @cons args steps sink state done run hfirst _ ih =>
    rw [List.zip_cons_cons]
    by_cases hd : done.Delivered args
    · obtain ⟨-, hresult, hstate⟩ := hfirst.of_delivered hd
      rw [delivered_cons_of_pos hd, List.map_cons, ih, hresult, hstate]
      rfl
    · rw [delivered_cons_of_neg hd, ih, (hfirst.of_not_delivered hd).2]

/-- The `k`-th delivered line has the `k`-th answer of a script. -/
theorem result_scripted {script : List (Except Report Int32)}
    {run : List (HandOver (List (Except Report Int32)) Report)}
    (H : Courses Facility.scripted steps sink script run) {k : Nat}
    {pair : List Bytes × HandOver (List (Except Report Int32)) Report}
    (hk : (delivered (steps.zip run))[k]? = some pair) :
    pair.2.result = (script.getD k (.error (.ofMessage "facility script exhausted"))).mapError
      .facility := by
  have hresult := congrArg (·[k]?) H.results_delivered
  have hlength : k < ((delivered (steps.zip run)).map Prod.fst).length := by
    rw [List.length_map]
    exact (List.getElem?_eq_some_iff.mp hk).1
  simp only [List.getElem?_map, hk, Facility.answers_scripted script hlength,
    Option.map_some, Option.some.injEq] at hresult
  exact hresult

theorem stateAfter_eq (H : Courses facility steps sink state run) :
    stateAfter state run = facility.after state ((delivered (steps.zip run)).map Prod.fst) := by
  induction H with
  | nil => rfl
  | @cons args steps sink state done run hfirst _ ih =>
    rw [List.zip_cons_cons, stateAfter, ih]
    by_cases hd : done.Delivered args
    · rw [delivered_cons_of_pos hd, (hfirst.of_delivered hd).2.2]
      rfl
    · rw [delivered_cons_of_neg hd, (hfirst.of_not_delivered hd).2]

end Courses

end HandOver

/-! ### The facility has no part in the rest -/

section

variable {σ' ε' : Type} (facility : Facility σ ε) (facility' : Facility σ' ε') (state : σ)
  (state' : σ')

/-- What is written, flushed and called, and the sink, do not depend on the facility. -/
theorem handOver_facility_congr (args : List Bytes) (sink : Sink) :
    (handOver facility args sink state).events = (handOver facility' args sink state').events ∧
      (handOver facility args sink state).writeFault? =
        (handOver facility' args sink state').writeFault? ∧
      (handOver facility args sink state).flushFault? =
        (handOver facility' args sink state').flushFault? ∧
      (handOver facility args sink state).sink = (handOver facility' args sink state').sink := by
  cases hline : (sink.writeLine (echoBytes args)).result with
  | error fault =>
    rw [handOver_of_write_error hline, handOver_of_write_error hline]
    exact ⟨rfl, rfl, rfl, rfl⟩
  | ok =>
    cases hflush : (sink.writeLine (echoBytes args)).sink.flush with
    | mk answer flushed =>
      cases answer with
      | error fault =>
        rw [handOver_of_flush_error hline hflush, handOver_of_flush_error hline hflush]
        exact ⟨rfl, rfl, rfl, rfl⟩
      | ok =>
        rw [handOver_of_flush_ok hline hflush, handOver_of_flush_ok hline hflush]
        exact ⟨rfl, HandOver.writeFault?_mapError.trans HandOver.writeFault?_mapError.symm,
          HandOver.flushFault?_mapError.trans HandOver.flushFault?_mapError.symm, rfl⟩

theorem handOvers_facility_congr (steps : List (List Bytes)) (sink : Sink) :
    (handOvers facility steps sink state).map
        (fun done => (done.events, done.writeFault?, done.flushFault?)) =
      (handOvers facility' steps sink state').map
        (fun done => (done.events, done.writeFault?, done.flushFault?)) := by
  induction steps generalizing sink state state' with
  | nil => rfl
  | cons args steps ih =>
    obtain ⟨hevents, hwrite, hflush, hsink⟩ :=
      handOver_facility_congr facility facility' state state' args sink
    rw [handOvers, handOvers, List.map_cons, List.map_cons, hevents, hwrite, hflush, hsink]
    exact congrArg _ (ih _ _ _)

end

/-- **The order of delegation.** A line is taken whole if and only if the lines up to it fit; each
such line is flushed once, the `j`-th with the `j`-th answer of the script of flushes, and each that
is flushed is followed by one call with its arguments. The results of these are the answers of the
facility to these calls alone, one for one; of a script, the `k`-th is the `k`-th answer. The state
after any number of steps is that after the calls so far. What the facility answers changes no
write, flush or call of any step. -/
theorem handOvers_delegation (facility : Facility σ ε) (steps : List (List Bytes)) (sink : Sink)
    (state : σ) (hsink : sink.Advancing) :
    let run := handOvers facility steps sink state
    let accepted := HandOver.accepted (steps.zip run)
    let delivered := HandOver.delivered (steps.zip run)
    (∀ (i : Nat) (args : List Bytes) (done : HandOver σ ε),
      steps[i]? = some args → run[i]? = some done →
      (done.TookLine args ↔ ∀ limit ∈ sink.limit,
        sink.offset + ((steps.take (i + 1)).flatMap echoLine).length ≤ limit) ∧
      done.events.count .flushed = (if done.TookLine args then 1 else 0) ∧
      Event.calls done.events = (if done.Delivered args then [args] else [])) ∧
    accepted.map (fun pair => pair.2.flushFault?) =
      (List.range accepted.length).map
        (fun j => sink.flushFaults.lookup (sink.flushes + j + 1)) ∧
    run.flatMap (fun done => Event.calls done.events) = delivered.map Prod.fst ∧
    delivered.map (fun pair => pair.2.result) =
      (facility.answers state (delivered.map Prod.fst)).map (Except.mapError .facility) ∧
    (∀ (script : List (Except Report Int32)) (k : Nat)
        (pair : List Bytes × HandOver (List (Except Report Int32)) Report),
      (HandOver.delivered (steps.zip (handOvers Facility.scripted steps sink script)))[k]? =
        some pair →
      pair.2.result = (script.getD k (.error (.ofMessage "facility script exhausted"))).mapError
        .facility) ∧
    (∀ n, HandOver.stateAfter state (run.take n) =
      facility.after state
        ((HandOver.delivered ((steps.take n).zip (run.take n))).map Prod.fst)) ∧
    ∀ (σ' ε' : Type) (facility' : Facility σ' ε') (state' : σ'),
      (handOvers facility' steps sink state').map
          (fun done => (done.events, done.writeFault?, done.flushFault?)) =
        run.map (fun done => (done.events, done.writeFault?, done.flushFault?)) := by
  intro run accepted delivered
  have H := handOvers_courses facility steps hsink state
  refine ⟨fun i args done hargs hdone => ?_, H.flushFaults_accepted, H.calls_eq,
    H.results_delivered,
    fun script k pair hk =>
      (handOvers_courses Facility.scripted steps hsink script).result_scripted hk,
    fun n => (H.take n).stateAfter_eq,
    fun σ' ε' facility' state' =>
      handOvers_facility_congr facility' facility state' state steps sink⟩
  obtain ⟨met, before, hcourse, hfits⟩ := H.course_at hargs hdone
  refine ⟨hcourse.tookLine_iff.trans hfits, hcourse.flushes.2.1, ?_⟩
  by_cases hd : done.Delivered args
  · rw [if_pos hd, (hcourse.of_delivered hd).1]
  · rw [if_neg hd, (hcourse.of_not_delivered hd).1]

/-- An error, a failed flush and a cut line: the third line has the second answer. -/
theorem handOvers_delegation_third_line :
    let sink : Sink := { Sink.unbounded with
      limit := some 8, chunk := some 3, interrupts := [0, 2, 4, 4],
      flushFaults := [(2, .interrupted)] }
    let steps : List (List Bytes) := [[[0x61]], [[0x62]], [[0x63]], [[0x64], [0x65]]]
    let script := [.error (.ofMessage "no tests found"), .ok 3, .ok 4]
    let run := handOvers Facility.scripted steps sink script
    let delivered := HandOver.delivered (steps.zip run)
    sink.Advancing ∧
    delivered.map Prod.fst = [[[0x61]], [[0x63]]] ∧
    delivered.map (fun pair => pair.2.result) =
      [.error (.facility (.ofMessage "no tests found")), .ok 3] ∧
    HandOver.stateAfter script (run.take 4) = [.ok 4] := by
  intro sink steps script run delivered
  have hsink : sink.Advancing := by simp [sink, Sink.Advancing]
  have hcalls : delivered.map Prod.fst = [[[0x61]], [[0x63]]] := by decide +kernel
  obtain ⟨-, -, -, hresults, -, hstate, -⟩ :=
    handOvers_delegation Facility.scripted steps sink script hsink
  refine ⟨hsink, hcalls, hresults.trans ?_, (hstate 4).trans ?_⟩
  · rw [show (HandOver.delivered (steps.zip run)).map Prod.fst = _ from hcalls]
    rfl
  · rw [show (HandOver.delivered ((steps.take 4).zip (run.take 4))).map Prod.fst = _ from hcalls]
    rfl

end Handoff

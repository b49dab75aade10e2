import Handoff.Program
import Handoff.Proofs.RunnerStarts

/-!
# What becomes of a run

A run that has a judge for its log echoes its arguments, asks the system for one command line at
most, and ends. `Call.Ended` says that the echo was taken and that a runner was started and has
ended; everything that a run leaves behind is told by whether that is so, and how the runner ended
(`Call.result_cases`). The sink is any sink at all: a line is taken if and only if the writing of it
succeeds, however the sink cuts and refuses (`Sink.sent_writeLine_eq_iff`).

`Call.run_outcome` puts the parts together: exit code, output, command lines and standard error. The
echo is taken by the handle of the standard output, which is not the same as arriving: it takes a
line for a descriptor that is none (`Call.run_outcome_detached`).
-/

namespace Handoff

variable {σ ε ω : Type}

/-! ### A line to any sink -/

namespace Sink

theorem sent_writeAll_isPrefix (s : Sink) (bytes : Bytes) : (s.writeAll bytes).sent <+: bytes := by
  fun_induction writeAll s bytes with
  | case1 => exact List.prefix_rfl
  | case2 s bytes hbytes t hwrite ih => exact ih
  | case3 | case4 => exact List.nil_prefix
  | case5 s bytes hbytes k t hwrite ih =>
    have hwhole := (List.prefix_append_right_inj (bytes.take (k + 1))).mpr ih
    rwa [List.take_append_drop] at hwhole

theorem sent_writeAll_eq_iff (s : Sink) (bytes : Bytes) :
    (s.writeAll bytes).sent = bytes ↔ (s.writeAll bytes).result = .ok () := by
  fun_induction writeAll s bytes with
  | case1 => simp
  | case2 s bytes hbytes t hwrite ih => exact ih
  | case3 s bytes hbytes | case4 s bytes hbytes => simpa using Ne.symm hbytes
  | case5 s bytes hbytes k t hwrite ih =>
    refine Iff.trans ?_ ih
    rw [← List.append_cancel_left_eq (bytes.take (k + 1)) _ (bytes.drop (k + 1)),
      List.take_append_drop]
    rfl

theorem sent_writeLine_eq_iff (s : Sink) (text : Bytes) :
    (s.writeLine text).sent = text ++ [Bytes.newline] ↔ (s.writeLine text).result = .ok () := by
  cases hfirst : (s.writeAll text).result with
  | error fault =>
    rw [writeLine_of_error hfirst, hfirst]
    have hlength := (s.sent_writeAll_isPrefix text).length_le
    refine iff_of_false (fun h => ?_) (by simp)
    rw [h, List.length_append, List.length_singleton] at hlength
    omega
  | ok =>
    rw [writeLine_of_ok hfirst]
    have hsent := (s.sent_writeAll_eq_iff text).mpr hfirst
    refine Iff.trans ?_ ((s.writeAll text).sink.sent_writeAll_eq_iff [Bytes.newline])
    rw [Outcome.after, hsent, List.append_cancel_left_eq]

theorem line_cases (s : Sink) (text : Bytes) :
    (∃ fault, (s.writeLine text).result = .error fault) ∨
      (∃ fault flushed, (s.writeLine text).result = .ok () ∧
        (s.writeLine text).sink.flush = (.error fault, flushed)) ∨
      ∃ flushed, (s.writeLine text).result = .ok () ∧
        (s.writeLine text).sink.flush = (.ok (), flushed) := by
  cases hline : (s.writeLine text).result with
  | error fault => exact .inl ⟨fault, rfl⟩
  | ok =>
    cases hflush : (s.writeLine text).sink.flush with
    | mk answer flushed =>
      cases answer with
      | error fault => exact .inr (.inl ⟨fault, flushed, rfl, rfl⟩)
      | ok => exact .inr (.inr ⟨flushed, rfl, rfl⟩)

/-- A sink that takes everything: it knows no limit and no flush of it fails. -/
structure Working (s : Sink) : Prop where
  advancing : s.Advancing
  unlimited : s.limit = none
  flushes : s.flushFaults = []

end Sink

section

variable {facility : Facility σ ε} {args : List Bytes} {sink : Sink} {state : σ}

theorem handOver_of_delivered (h : (handOver facility args sink state).Delivered args) :
    Event.written (handOver facility args sink state).events = echoLine args ∧
      (handOver facility args sink state).result = (facility state args).2.mapError .facility ∧
      (handOver facility args sink state).state = (facility state args).1 := by
  refine ⟨h.1, ?_⟩
  obtain ⟨htook, hflushed⟩ := h
  obtain ⟨fault, hline⟩ | ⟨fault, flushed, hline, hflush⟩ | ⟨flushed, hline, hflush⟩ :=
    sink.line_cases (echoBytes args)
  · rw [handOver_of_write_error hline, HandOver.TookLine, Event.written_ofSent] at htook
    have hresult := (sink.sent_writeLine_eq_iff (echoBytes args)).mp htook
    rw [hline] at hresult
    cases hresult
  · rw [handOver_of_flush_error hline hflush] at hflushed
    cases hflushed
  · rw [handOver_of_flush_ok hline hflush]
    exact ⟨rfl, rfl⟩

theorem handOver_of_not_delivered (h : ¬ (handOver facility args sink state).Delivered args) :
    (∃ failure, (handOver facility args sink state).result = .error failure) ∧
      (handOver facility args sink state).state = state := by
  obtain ⟨fault, hline⟩ | ⟨fault, flushed, hline, hflush⟩ | ⟨flushed, hline, hflush⟩ :=
    sink.line_cases (echoBytes args)
  · rw [handOver_of_write_error hline]
    exact ⟨⟨_, rfl⟩, rfl⟩
  · rw [handOver_of_flush_error hline hflush]
    exact ⟨⟨_, rfl⟩, rfl⟩
  · refine absurd ⟨?_, ?_⟩ h
    · have hsent := (sink.sent_writeLine_eq_iff (echoBytes args)).mpr hline
      rw [handOver_of_flush_ok hline hflush, HandOver.TookLine, hsent]
      change Event.written (Event.ofSent (echoLine args) ++ _) = _
      simp [Event.ofSent_echoLine, Event.written]
    · rw [handOver_of_flush_ok hline hflush]
      exact HandOver.flushFault?_mapError

theorem delivered_of_working (h : sink.Working) :
    (handOver facility args sink state).Delivered args := by
  have hcourse := handOver_course facility args h.advancing state
  have htook := hcourse.tookLine_iff.mpr (Sink.fits_iff.mpr (by simp [h.unlimited]))
  refine ⟨htook, ?_⟩
  rw [hcourse.flushes.1, if_pos htook, Sink.nextFlushFault?, h.flushes, List.lookup_nil]

theorem HandOver.delivered_congr {τ : Type} {done : HandOver σ ε} {other : HandOver τ ε}
    (hevents : done.events = other.events) (hresult : done.result = other.result) :
    done.Delivered args ↔ other.Delivered args := by
  rw [Delivered, Delivered, TookLine, TookLine, flushFault?, flushFault?, hevents, hresult]

/-- Two facilities that give the same answer from related states: their hand-overs differ in the
states alone, and those stay related. -/
theorem handOver_related {τ : Type} {other : Facility τ ε} {twin : τ} {R : σ → τ → Prop}
    (hbefore : R state twin) (hanswer : (facility state args).2 = (other twin args).2)
    (hafter : R (facility state args).1 (other twin args).1) :
    (handOver facility args sink state).events = (handOver other args sink twin).events ∧
      (handOver facility args sink state).result = (handOver other args sink twin).result ∧
      (handOver facility args sink state).sink = (handOver other args sink twin).sink ∧
      R (handOver facility args sink state).state (handOver other args sink twin).state := by
  obtain ⟨fault, hline⟩ | ⟨fault, flushed, hline, hflush⟩ | ⟨flushed, hline, hflush⟩ :=
    sink.line_cases (echoBytes args)
  · rw [handOver_of_write_error hline, handOver_of_write_error hline]
    exact ⟨rfl, rfl, rfl, hbefore⟩
  · rw [handOver_of_flush_error hline hflush, handOver_of_flush_error hline hflush]
    exact ⟨rfl, rfl, rfl, hbefore⟩
  · rw [handOver_of_flush_ok hline hflush, handOver_of_flush_ok hline hflush, hanswer]
    exact ⟨rfl, rfl, rfl, hafter⟩

end

/-! ### One run -/

/-- Whether a message is the error of a failed hand-over. -/
def Message.isFailure : Message → Bool
  | .failure .. => true
  | .notice _ _ | .runner _ => false

/-- What a run leaves behind, with its world seen through a function. -/
def Finish.mapWorld {ω' : Type} (f : ω → ω') (finish : Finish ω) : Finish ω' :=
  ⟨finish.exit, finish.output, finish.errors, finish.world.map f⟩

namespace Call

/-- The command line that a run comes to, if it gets that far. -/
def commandLine (call : Call ω) : CommandLine := call.settings.runner.commandLine call.forwarded

/-- Whether the echo of a run is taken and passed on. -/
def Echoes (launch : Launcher ω) (call : Call ω) : Prop :=
  (call.handOver launch).Delivered call.forwarded

instance (launch : Launcher ω) (call : Call ω) : Decidable (call.Echoes launch) :=
  inferInstanceAs (Decidable ((call.handOver launch).Delivered call.forwarded))

/-- Whether the echo of a run is taken and a runner is started, which ends as given. -/
def Ended (launch : Launcher ω) (call : Call ω) (done : Completed) : Prop :=
  call.Echoes launch ∧ call.commandLine.hasNul = false ∧
    (launch call.world call.commandLine).2 = .ok done

/-- A call whose world keeps the command lines that the system is asked to start. -/
def recorded (call : Call ω) : Call (ω × List CommandLine) :=
  ⟨call.environment, call.argv, call.streams, (call.world, [])⟩

/-- The command lines that the system is asked to start in a run. -/
def launched (library : Library) (launch : Launcher ω) (call : Call ω) : List CommandLine :=
  ((call.recorded.runWith library launch.recorded).world.map Prod.snd).getD []

variable {library : Library} {launch : Launcher ω} {call : Call ω} {done : Completed}
  {judge : Log.Judge}

theorem ended_iff : call.Ended launch done ↔
    call.Echoes launch ∧ launch.outcome call.world call.commandLine = .ended done := by
  rw [Ended, Launcher.outcome_eq_ended_iff]

theorem Ended.unique {other : Completed} (h : call.Ended launch done)
    (hother : call.Ended launch other) : done = other :=
  Except.ok.inj (h.2.2.symm.trans hother.2.2)

/-- The hand-over of a run whose echo is taken is an attempt to start the command line. -/
theorem handOver_of_echoes (h : call.Echoes launch) :
    Event.written (call.handOver launch).events = echoLine call.forwarded ∧
      (call.handOver launch).result =
        ((launch.outcome call.world call.commandLine).answer
          call.settings.runner.program).mapError .facility ∧
      (call.handOver launch).state =
        ⟨launch.worldAfter call.world call.commandLine,
          .notice (.delegating call.commandLine) ::
            (launch.outcome call.world call.commandLine).emissions⟩ := by
  obtain ⟨hwritten, hresult, hstate⟩ := handOver_of_delivered h
  refine ⟨hwritten, hresult.trans (by rw [answer_delegate]; rfl), hstate.trans ?_⟩
  rw [delegate_eq_attempt]
  rfl

/-- The result of a run's hand-over is the runner's if one was started, and an error if not. -/
theorem result_cases (launch : Launcher ω) (call : Call ω) :
    (∃ done, call.Ended launch done ∧ (call.handOver launch).result = .ok done.status.code) ∨
      (∀ done, ¬ call.Ended launch done) ∧
        ∃ failure, (call.handOver launch).result = .error failure := by
  by_cases hecho : call.Echoes launch
  · obtain ⟨-, hresult, -⟩ := handOver_of_echoes hecho
    cases houtcome : launch.outcome call.world call.commandLine with
    | unstarted fault =>
      rw [houtcome] at hresult
      refine .inr ⟨fun done hended => ?_, _, hresult⟩
      cases houtcome.symm.trans (ended_iff.mp hended).2
    | ended done =>
      rw [houtcome] at hresult
      exact .inl ⟨done, ended_iff.mpr ⟨hecho, houtcome⟩, hresult⟩
  · exact .inr ⟨fun done hended => hecho hended.1, (handOver_of_not_delivered hecho).1⟩

theorem echoes_of_working (h : call.streams.output.Working) : call.Echoes launch := by
  rw [Echoes, handOver, Sink.handle_of_unlimited h.unlimited]
  exact delivered_of_working h

/-- The handle of an output that is none takes every echo. -/
theorem echoes_of_detached (h : call.streams.output.isDetached = true)
    (hadvancing : call.streams.output.Advancing) (hflushes : call.streams.output.flushFaults = []) :
    call.Echoes launch := by
  rw [Echoes, handOver, Sink.handle, if_pos h]
  exact delivered_of_working ⟨hadvancing, rfl, hflushes⟩

/-- What a runner wrote is the rest of the output; without a runner there is no rest. -/
theorem output_run (h : library.judge? call.settings.logFilter = some judge)
    (hecho : call.Echoes launch) : (call.runWith library launch).output =
      call.streams.output.arrived (echoLine call.forwarded) ++
        (match launch.outcome call.world call.commandLine with
          | .unstarted _ => []
          | .ended done => done.output) := by
  obtain ⟨hwritten, -, hstate⟩ := handOver_of_echoes hecho
  rw [runWith_eq_runUnder h]
  change call.streams.output.arrived (Event.written (call.handOver launch).events) ++
    (call.handOver launch).state.output = _
  rw [hwritten, hstate]
  cases launch.outcome call.world call.commandLine <;> simp [Desk.output, Attempt.emissions]

private theorem toUInt8_ofNat : ∀ n < 256, (Int32.ofNat n).toUInt32.toUInt8.toNat = n := by
  decide +kernel

theorem exitCode_exited {ε : Type} (code : UInt8) :
    exitCode (.ok (Status.exited code).code : Except ε Int32) = code :=
  UInt8.toNat_inj.mp (toUInt8_ofNat code.toNat code.toNat_lt)

theorem exitCode_signaled {ε : Type} (signal : Signal) (coreDumped : Bool) :
    exitCode (.ok (Status.signaled signal coreDumped).code : Except ε Int32) = 1 := rfl

theorem exit_run (h : library.judge? call.settings.logFilter = some judge) :
    (call.runWith library launch).exit = exitCode (call.handOver launch).result := by
  rw [runWith_eq_runUnder h, runUnder]

theorem errors_run (h : library.judge? call.settings.logFilter = some judge) :
    (call.runWith library launch).errors =
      (call.handOver launch).state.emissions.filterMap
          (Message.ofEmission? judge call.streams.errorsIsTerminal) ++
        call.failure library (call.handOver launch).result := by
  rw [runWith_eq_runUnder h, runUnder]

theorem isFailure_eq_false_of_mem {emissions : List Emission} {isTerminal : Bool}
    {message : Message} (h : message ∈ emissions.filterMap (Message.ofEmission? judge isTerminal)) :
    message.isFailure = false := by
  obtain ⟨emission, -, hmessage⟩ := List.mem_filterMap.mp h
  cases emission with
  | notice notice =>
    rw [Message.ofEmission?] at hmessage
    split at hmessage
    · cases hmessage
      rfl
    · cases hmessage
  | written output errors =>
    cases hmessage
    rfl

theorem handOver_recorded (launch : Launcher ω) (call : Call ω) :
    (call.recorded.handOver launch.recorded).events = (call.handOver launch).events ∧
      (call.recorded.handOver launch.recorded).result = (call.handOver launch).result ∧
      (call.recorded.handOver launch.recorded).state.mapWorld Prod.fst =
        (call.handOver launch).state := by
  have hdelegate :=
    delegate_recorded launch call.settings.runner ⟨(call.world, []), []⟩ call.forwarded
  obtain ⟨hevents, hresult, -, hstate⟩ :=
    handOver_related (R := fun desk twin => Desk.mapWorld Prod.fst desk = twin) rfl
      (congrArg Prod.snd hdelegate) (congrArg Prod.fst hdelegate)
  exact ⟨hevents, hresult, hstate⟩

theorem echoes_recorded : call.recorded.Echoes launch.recorded ↔ call.Echoes launch := by
  obtain ⟨hevents, hresult, -⟩ := handOver_recorded launch call
  exact HandOver.delivered_congr hevents hresult

/-- Keeping a record of the command lines changes nothing else. -/
theorem run_recorded (library : Library) (launch : Launcher ω) (call : Call ω) :
    (call.recorded.runWith library launch.recorded).mapWorld Prod.fst =
      call.runWith library launch := by
  rw [runWith, runWith, show call.recorded.settings = call.settings from rfl]
  cases library.judge? call.settings.logFilter with
  | none => rfl
  | some judge =>
    obtain ⟨hevents, hresult, hstate⟩ := handOver_recorded launch call
    simp only [runUnder, Finish.mapWorld, hevents, hresult, ← hstate]
    rfl

/-- The system is asked for the command line of the run once the echo is taken, unless it holds a
NUL byte, and for nothing else. -/
theorem launched_eq (h : library.judge? call.settings.logFilter = some judge) :
    call.launched library launch =
      if call.Echoes launch ∧ call.commandLine.hasNul = false then [call.commandLine] else [] := by
  have hrun : call.recorded.runWith library launch.recorded =
      call.recorded.runUnder library launch.recorded judge := runWith_eq_runUnder h
  have hlaunched : call.launched library launch =
      (call.recorded.handOver launch.recorded).state.world.2 := by
    rw [launched, hrun]
    rfl
  rw [hlaunched]
  by_cases hecho : call.Echoes launch
  · obtain ⟨-, -, hstate⟩ := handOver_of_echoes (echoes_recorded.mpr hecho)
    rw [hstate, Launcher.worldAfter_recorded]
    change [] ++ (if call.commandLine.hasNul then [] else [call.commandLine]) = _
    cases call.commandLine.hasNul <;> simp [hecho]
  · have hstate := (handOver_of_not_delivered (mt echoes_recorded.mp hecho)).2
    rw [if_neg (fun hboth => hecho hboth.1)]
    exact congrArg (fun desk => desk.world.2) hstate

theorem result_of_ended (h : call.Ended launch done) :
    (call.handOver launch).result = .ok done.status.code := by
  obtain ⟨other, hother, hresult⟩ | ⟨hnone, -⟩ := result_cases launch call
  · rw [hresult, h.unique hother]
  · exact absurd h (hnone done)

theorem result_of_not_ended (h : ∀ done, ¬ call.Ended launch done) :
    ∃ failure, (call.handOver launch).result = .error failure := by
  obtain ⟨done, hended, -⟩ | ⟨-, hfailed⟩ := result_cases launch call
  · exact absurd hended (h done)
  · exact hfailed

theorem exit_of_exited (h : library.judge? call.settings.logFilter = some judge) {code : UInt8}
    (hended : call.Ended launch done) (hstatus : done.status = .exited code) :
    (call.runWith library launch).exit = code := by
  rw [exit_run h, result_of_ended hended, hstatus, exitCode_exited]

theorem exit_of_signaled (h : library.judge? call.settings.logFilter = some judge)
    {signal : Signal} {coreDumped : Bool} (hended : call.Ended launch done)
    (hstatus : done.status = .signaled signal coreDumped) :
    (call.runWith library launch).exit = 1 := by
  rw [exit_run h, result_of_ended hended, hstatus, exitCode_signaled]

theorem exit_of_not_ended (h : library.judge? call.settings.logFilter = some judge)
    (hended : ∀ done, ¬ call.Ended launch done) : (call.runWith library launch).exit = 1 := by
  obtain ⟨failure, hfailure⟩ := result_of_not_ended hended
  rw [exit_run h, hfailure, exitCode]

theorem exit_eq_zero_iff (h : library.judge? call.settings.logFilter = some judge) :
    (call.runWith library launch).exit = 0 ↔
      ∃ done, call.Ended launch done ∧ done.status = .exited 0 := by
  refine ⟨fun hzero => ?_, fun ⟨done, hended, hstatus⟩ => exit_of_exited h hended hstatus⟩
  -- Neither a death nor a failure is a zero, so a runner exited, and its code was passed on.
  obtain ⟨done, hended, -⟩ | ⟨hended, -⟩ := result_cases launch call
  · cases hstatus : done.status with
    | exited code =>
      exact ⟨done, hended, by rw [hstatus, ← exit_of_exited h hended hstatus, hzero]⟩
    | signaled signal coreDumped => cases (exit_of_signaled h hended hstatus).symm.trans hzero
  · cases (exit_of_not_ended h hended).symm.trans hzero

theorem output_of_ended (h : library.judge? call.settings.logFilter = some judge)
    (hended : call.Ended launch done) : (call.runWith library launch).output =
      call.streams.output.arrived (echoLine call.forwarded) ++ done.output := by
  obtain ⟨hecho, houtcome⟩ := ended_iff.mp hended
  rw [output_run h hecho, houtcome]

theorem output_of_not_ended (h : library.judge? call.settings.logFilter = some judge)
    (hecho : call.Echoes launch) (hended : ∀ done, ¬ call.Ended launch done) :
    (call.runWith library launch).output =
      call.streams.output.arrived (echoLine call.forwarded) := by
  rw [output_run h hecho]
  cases houtcome : launch.outcome call.world call.commandLine with
  | unstarted fault => exact List.append_nil _
  | ended done => exact absurd (ended_iff.mpr ⟨hecho, houtcome⟩) (hended done)

/-- An output that works or is attached is written to as it is. -/
theorem handOver_of_attached
    (h : call.streams.output.Working ∨ call.streams.output.isDetached = false) :
    call.handOver launch = Handoff.handOver (delegate launch call.settings.runner)
        call.forwarded call.streams.output ⟨call.world, []⟩ ∧
      ∀ bytes, call.streams.output.arrived bytes = bytes := by
  obtain hworking | hattached := h
  · exact ⟨by rw [handOver, Sink.handle_of_unlimited hworking.unlimited],
      Sink.arrived_of_unlimited hworking.unlimited⟩
  · exact ⟨by rw [handOver, Sink.handle_of_attached hattached],
      Sink.arrived_of_attached hattached⟩

/-- **What becomes of a run** that has a judge for its log, with any library, environment,
arguments, streams and launcher. It exits with zero if and only if its echo was taken and its runner
exited with zero; it passes on every exit code of a runner, and exits with one if the runner was
killed or if there was none. The output is the echo and then what the runner wrote. The system is
asked for nothing but the command line, and only once the echo is taken. Standard error ends with
the chain of the error, and holds no error before that, if and only if no runner was started.

What is taken arrives, and is seen by the output itself, unless the output is detached; then any
echo is taken, and no more of it arrives than the output had room for. The label of an error is
coloured as the library says. -/
theorem run_outcome (library : Library) (launch : Launcher ω) (call : Call ω)
    (hjudge : library.judge? call.settings.logFilter ≠ none) :
    let finish := call.runWith library launch
    let result := (call.handOver launch).result
    let output := call.streams.output
    let coloured := call.isColoured library
    (finish.exit = 0 ↔ ∃ done, call.Ended launch done ∧ done.status = .exited 0) ∧
    (∀ done code, call.Ended launch done → done.status = .exited code → finish.exit = code) ∧
    (∀ done signal coreDumped, call.Ended launch done →
      done.status = .signaled signal coreDumped → finish.exit = 1) ∧
    ((∀ done, ¬ call.Ended launch done) → finish.exit = 1) ∧
    (output.Working → call.Echoes launch) ∧
    (∀ done, call.Ended launch done →
      finish.output = output.arrived (echoLine call.forwarded) ++ done.output) ∧
    (call.Echoes launch → (∀ done, ¬ call.Ended launch done) →
      finish.output = output.arrived (echoLine call.forwarded)) ∧
    (output.Working ∨ output.isDetached = false →
      call.handOver launch = Handoff.handOver (delegate launch call.settings.runner)
        call.forwarded output ⟨call.world, []⟩ ∧
      ∀ bytes, output.arrived bytes = bytes) ∧
    (output.isDetached = true → output.Advancing → output.flushFaults = [] →
      call.Echoes launch ∧ ∀ bytes limit, output.limit = some limit →
        output.arrived bytes = bytes.take (limit - output.offset)) ∧
    (call.recorded.runWith library launch.recorded).mapWorld Prod.fst = finish ∧
    call.launched library launch =
      (if call.Echoes launch ∧ call.commandLine.hasNul = false then [call.commandLine] else []) ∧
    ((∃ failure, result = .error failure) ↔ ∀ done, ¬ call.Ended launch done) ∧
    (∃ shown : List Message, (∀ message ∈ shown, message.isFailure = false) ∧
      finish.errors = shown ++
        (match result with
          | .ok _ => []
          | .error failure =>
            [.failure (failure.report (DelegationFault.reportIn library.visible)) coloured])) ∧
    ∀ stamp report, Message.renderWith library stamp (.failure report coloured) =
      Bytes.ofString ((if coloured then "\x1b[91merror:\x1b[0m" else "error:") ++ " " ++
        ": ".intercalate report.chain ++ "\n") := by
  intro finish result output coloured
  obtain ⟨judge, hjudge⟩ := Option.ne_none_iff_exists'.mp hjudge
  refine ⟨exit_eq_zero_iff hjudge, fun done code => exit_of_exited hjudge,
    fun done signal coreDumped => exit_of_signaled hjudge, exit_of_not_ended hjudge,
    echoes_of_working, fun done => output_of_ended hjudge, output_of_not_ended hjudge,
    handOver_of_attached, fun hdetached hadvancing hflushes =>
      ⟨echoes_of_detached hdetached hadvancing hflushes, fun bytes limit hlimit => ?_⟩,
    run_recorded library launch call, launched_eq hjudge,
    ⟨fun ⟨failure, hfailure⟩ done hended => ?_, result_of_not_ended⟩,
    ⟨_, fun message => isFailure_eq_false_of_mem, errors_run hjudge⟩, fun stamp report => rfl⟩
  · simp [Sink.arrived, hlimit, hdetached]
  · cases (result_of_ended hended).symm.trans hfailure

/-- A runner that is killed, with an argument that is not UTF-8 and a filter that is invalid. -/
theorem run_outcome_killed :
    let killed : Completed := ⟨.signaled ⟨9⟩ false, [0x68, 0x69, 0x0a], [0x21]⟩
    let launch : Launcher Unit := fun world _ => (world, .ok killed)
    let call : Call Unit := ⟨⟨[("AUTORUN_COMMAND", [0x73, 0x68, 0x20, 0x2d, 0x63]),
      ("AUTORUN_LOG", [0x5b]), ("CARGO", [])]⟩,
      [[0x70], Bytes.ofString subcommand, [0x61, 0xff]], Sink.unbounded, ()⟩
    Library.standard.judge? call.settings.logFilter ≠ none ∧
    (call.run launch).exit = 1 ∧
    (call.run launch).output = [0x61, 0xef, 0xbf, 0xbd, 0x0a, 0x68, 0x69, 0x0a] ∧
    call.launched .standard launch = [⟨[0x73, 0x68], [[0x2d, 0x63], [0x61, 0xff]]⟩] ∧
    ∀ message ∈ (call.run launch).errors, message.isFailure = false := by
  intro killed launch call
  have hjudge : Library.standard.judge? call.settings.logFilter ≠ none :=
    Option.isSome_iff_ne_none.mp (by decide +kernel)
  have hworking : call.streams.output.Working :=
    ⟨by simp [call, Sink.Advancing, Sink.unbounded], rfl, rfl⟩
  obtain ⟨-, -, hkilled, -, hecho, houtput, -, -, -, -, hlaunched, hfailed, hmessages, -⟩ :=
    run_outcome .standard launch call hjudge
  obtain ⟨shown, hshown, herrors⟩ := hmessages
  have hended : call.Ended launch killed := ⟨hecho hworking, by decide +kernel, rfl⟩
  refine ⟨hjudge, hkilled killed ⟨9⟩ false hended rfl,
    (houtput killed hended).trans (by decide +kernel), ?_, fun message hmessage => ?_⟩
  · rw [hlaunched, if_pos ⟨hended.1, hended.2.1⟩]
    decide +kernel
  · change message ∈ (call.runWith .standard launch).errors at hmessage
    cases hresult : (call.handOver launch).result with
    | ok code =>
      rw [herrors, hresult, List.append_nil] at hmessage
      exact hshown message hmessage
    | error failure => exact absurd hended (hfailed.mp ⟨failure, hresult⟩ killed)

/-- An output that is none, and one whose runner cannot be started while colours are asked for. The
first run exits with zero and has started its runner, although nothing of the echo has arrived; the
second has an error whose line does not begin with the label as such. -/
theorem run_outcome_detached :
    let launch : Launcher Unit := fun world command =>
      (world, if command.args = [] then .error .noEntry else .ok ⟨.exited 0, [], []⟩)
    let detached : Call Unit := ⟨⟨[]⟩, [[0x70], [0x61]],
      Sink.refusing (.os .badDescriptor), ()⟩
    let coloured : Call Unit := ⟨⟨[("AUTORUN_COMMAND", [0x78]), ("CLICOLOR_FORCE", [0x31])]⟩,
      [[0x70]], Sink.unbounded, ()⟩
    (detached.run launch).exit = 0 ∧ (detached.run launch).output = [] ∧
    detached.launched .standard launch =
      [⟨Bytes.ofString "cargo", [Bytes.ofString "test", [0x61]]⟩] ∧
    (coloured.run launch).exit = 1 ∧
    (coloured.run launch).errors.flatMap (Message.render "") = Bytes.ofString
      "\x1b[91merror:\x1b[0m running \"x\": No such file or directory (os error 2)\n" := by
  intro launch detached coloured
  exact ⟨by decide +kernel, by decide +kernel, by decide +kernel, by decide +kernel,
    by decide +kernel⟩

end Call

end Handoff

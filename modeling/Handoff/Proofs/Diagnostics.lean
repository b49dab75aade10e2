import Handoff.Proofs.LogSetting
import Handoff.Proofs.RunOutcome

/-!
# Diagnostics have no part in the work

Two calls have the same work (`Call.SameWork`) if they agree on the arguments after the program
name, the standard output, the runner, being a subcommand and what their runners read. Program name,
log filter, colours and terminals may differ, and so may every other variable. The relation between
their hand-overs is that all but the worlds is equal (`Call.SameWork.handOver`);
`Call.run_diagnostics` reads off what the two runs leave behind. What they show of the log is picked
out of the same list of notices.

How filters are read, what colours depend on and how lines are laid out is up to the library. All
that is asked of it is that a filter of everything can be set (`Library.TraceShowsAll`).
-/

namespace Handoff

variable {ω ι : Type}

/-- Whether a runner's end depends on its command line and on what is read off the world alone. -/
def Launcher.DependsOn (launch : Launcher ω) (input : ω → ι) : Prop :=
  ∀ world other command, input world = input other →
    (launch world command).2 = (launch other command).2

/-- Whether a library has a filter that shows everything, by its usual name. -/
def Library.TraceShowsAll (library : Library) : Prop :=
  ∃ judge, library.filter "trace" = .ok judge ∧ ∀ event, judge event = true

theorem Library.standard_traceShowsAll : standard.TraceShowsAll := by
  let trace : Log.Filter := ⟨[⟨none, none, none, .trace⟩]⟩
  have htrace : Log.Filter.ofText (fun _ => true) "trace" = .ok trace := rfl
  refine ⟨trace.shows, ?_, fun ⟨target, severity, fields⟩ => ?_⟩
  · change (Log.Filter.ofText (fun _ => true) "trace").map Log.Filter.shows = _
    rw [htrace]
    rfl
  · cases severity <;> rfl

/-- The notices that a run has shown, as they are written. -/
def Finish.shownLines (library : Library) (stamp : String) (finish : Finish ω) : List Bytes :=
  (finish.errors.filter fun message => message.notice?.isSome).map
    (Message.renderWith library stamp)

namespace Call

/-- Two calls that differ in nothing but what their diagnostics depend on. -/
structure SameWork (input : ω → ι) (call other : Call ω) : Prop where
  args : call.argv.tail = other.argv.tail
  output : call.streams.output = other.streams.output
  input : input call.world = input other.world
  runner : call.environment.value? Settings.runnerVariable =
    other.environment.value? Settings.runnerVariable
  subcommand : call.environment.isSet "CARGO" = other.environment.isSet "CARGO"

variable {library : Library} {input : ω → ι} {launch : Launcher ω} {call other : Call ω}
  {judge : Log.Judge}

/-- The reports of the errors of a hand-over; there is one at most. -/
def reports (library : Library) (launch : Launcher ω) (call : Call ω) : List Report :=
  match (call.handOver launch).result with
  | .ok _ => []
  | .error failure => [failure.report (DelegationFault.reportIn library.visible)]

theorem failures_runUnder : (call.runUnder library launch judge).errors.filter Message.isFailure =
    (call.reports library launch).map fun report =>
      .failure report (call.isColoured library) := by
  have hnone : ((call.handOver launch).state.emissions.filterMap
      (Message.ofEmission? judge call.streams.errorsIsTerminal)).filter Message.isFailure = [] :=
    List.filter_eq_nil_iff.mpr fun message hmessage => by
      simp [isFailure_eq_false_of_mem hmessage]
  rw [runUnder, List.filter_append, hnone, List.nil_append, reports]
  cases (call.handOver launch).result <;> rfl

/-- All lines of the log are laid out for the one standard error. -/
theorem shownLines_runUnder (stamp : String) :
    (call.runUnder library launch judge).shownLines library stamp =
      (call.runUnder library launch judge).shownNotices.map fun notice =>
        Message.renderWith library stamp (.notice notice call.streams.errorsIsTerminal) := by
  have hnotices : (call.runUnder library launch judge).errors.filter
        (fun message => message.notice?.isSome) =
      (call.runUnder library launch judge).shownNotices.map
        (Message.notice · call.streams.errorsIsTerminal) := by
    rw [Finish.shownNotices, runUnder, List.filter_append, List.filterMap_append, List.map_append]
    congr 1
    · induction (call.handOver launch).state.emissions with
      | nil => rfl
      | cons emission emissions ih =>
        cases emission with
        | notice notice =>
          cases hshows : judge notice.metadata <;>
            simp [Message.ofEmission?, List.filter_cons, hshows, ih]
        | written output errors => exact ih
    · cases (call.handOver launch).result <;> rfl
  rw [Finish.shownLines, hnotices, List.map_map]
  rfl

/-- Under the fullest filter a call shows all notices of its hand-over. -/
theorem run_withLog_trace (hlibrary : library.TraceShowsAll) (launch : Launcher ω)
    (call : Call ω) :
    ∃ judge, (call.withLog "trace").runWith library launch = call.runUnder library launch judge ∧
      (call.runUnder library launch judge).shownNotices = (call.handOver launch).state.notices := by
  obtain ⟨judge, hfilter, hshows⟩ := hlibrary
  refine ⟨judge, run_withLog (by decide +kernel) (Library.judge?_of_ok hfilter), ?_⟩
  rw [shownNotices_runUnder]
  exact List.filter_eq_self.mpr fun notice _ => hshows notice.metadata

theorem shownNotices_withLog_trace (hlibrary : library.TraceShowsAll) :
    ((call.withLog "trace").runWith library launch).shownNotices =
      (call.handOver launch).state.notices := by
  obtain ⟨judge, hrun, hnotices⟩ := run_withLog_trace hlibrary launch call
  rw [hrun, hnotices]

/-- A call shows no line of the log that it would not show under the fullest filter. -/
theorem shownLines_sublist (hlibrary : library.TraceShowsAll)
    (h : library.judge? call.settings.logFilter = some judge) (stamp : String) :
    ((call.runWith library launch).shownLines library stamp).Sublist
      (((call.withLog "trace").runWith library launch).shownLines library stamp) := by
  obtain ⟨fullest, hrun, hnotices⟩ := run_withLog_trace hlibrary launch call
  rw [runWith_eq_runUnder h, hrun, shownLines_runUnder, shownLines_runUnder, hnotices,
    shownNotices_runUnder]
  exact List.filter_sublist.map _

namespace SameWork

theorem settings_runner (h : SameWork input call other) :
    call.settings.runner = other.settings.runner := Settings.runner_ofEnvironment_congr h.runner

theorem forwarded (h : SameWork input call other) : call.forwarded = other.forwarded := by
  have hcargo : call.environment.callsSubcommand = other.environment.callsSubcommand :=
    h.subcommand
  simp only [Call.forwarded, Invocation.forwarded, h.args, hcargo]

theorem commandLine (h : SameWork input call other) : call.commandLine = other.commandLine := by
  rw [Call.commandLine, Call.commandLine, h.settings_runner, h.forwarded]

theorem handOver (h : SameWork input call other) (hlaunch : launch.DependsOn input) :
    (call.handOver launch).events = (other.handOver launch).events ∧
      (call.handOver launch).result = (other.handOver launch).result ∧
      (call.handOver launch).state.emissions = (other.handOver launch).state.emissions := by
  have houtcome (command : CommandLine) :
      launch.outcome call.world command = launch.outcome other.world command := by
    rw [Launcher.outcome, Launcher.outcome, hlaunch _ _ _ h.input]
  have hanswer : (delegate launch call.settings.runner ⟨call.world, []⟩ call.forwarded).2 =
      (delegate launch call.settings.runner ⟨other.world, []⟩ call.forwarded).2 := by
    rw [answer_delegate, answer_delegate, houtcome]
  have hemissions :
      (delegate launch call.settings.runner ⟨call.world, []⟩ call.forwarded).1.emissions =
        (delegate launch call.settings.runner ⟨other.world, []⟩ call.forwarded).1.emissions := by
    rw [emissions_delegate, emissions_delegate, houtcome]
  rw [Call.handOver, Call.handOver, ← h.settings_runner, ← h.forwarded, ← h.output]
  obtain ⟨hevents, hresult, -, hafter⟩ :=
    handOver_related (R := fun desk twin => desk.emissions = twin.emissions) rfl hanswer hemissions
  exact ⟨hevents, hresult, hafter⟩

theorem launched (h : SameWork input call other) (hlaunch : launch.DependsOn input)
    (hcall : library.judge? call.settings.logFilter ≠ none)
    (hother : library.judge? other.settings.logFilter ≠ none) :
    call.launched library launch = other.launched library launch := by
  obtain ⟨judge, hjudge⟩ := Option.ne_none_iff_exists'.mp hcall
  obtain ⟨another, hanother⟩ := Option.ne_none_iff_exists'.mp hother
  obtain ⟨hevents, hresult, -⟩ := h.handOver hlaunch
  have hechoes : call.Echoes launch ↔ other.Echoes launch := by
    rw [Echoes, Echoes, h.forwarded]
    exact HandOver.delivered_congr hevents hresult
  rw [launched_eq hjudge, launched_eq hanother]
  simp only [hechoes, h.commandLine]

end SameWork

/-- **Diagnostics have no part in the work.** Two runs with the same work and any library, whatever
the programs are called, whatever their filters and colours are and whether terminals show their
streams: they ask the system for the same command lines, have the same output and the same exit
code, and fail with the same reports, which are rendered alike but for the colours around the label.
Each shows a selection of the lines that it would show under the fullest filter, and the notices of
those are the same for both. -/
theorem run_diagnostics {library : Library} {launch : Launcher ω} {input : ω → ι}
    {call other : Call ω} (hlibrary : library.TraceShowsAll) (hlaunch : launch.DependsOn input)
    (hwork : SameWork input call other)
    (hcall : library.judge? call.settings.logFilter ≠ none)
    (hother : library.judge? other.settings.logFilter ≠ none) :
    let finish := call.runWith library launch
    let twin := other.runWith library launch
    let full := (call.withLog "trace").runWith library launch
    let fullTwin := (other.withLog "trace").runWith library launch
    call.launched library launch = other.launched library launch ∧
    finish.output = twin.output ∧
    finish.exit = twin.exit ∧
    (∃ reports : List Report, reports.length ≤ 1 ∧
      finish.errors.filter Message.isFailure =
        reports.map (.failure · (call.isColoured library)) ∧
      twin.errors.filter Message.isFailure =
        reports.map (.failure · (other.isColoured library))) ∧
    (∀ stamp report,
      Message.renderWith library stamp (.failure report false) =
        Bytes.ofString ("error:" ++ " " ++ report.full ++ "\n") ∧
      Message.renderWith library stamp (.failure report true) =
        Bytes.ofString ("\x1b[91m" ++ "error:" ++ "\x1b[0m" ++ " " ++ report.full ++ "\n")) ∧
    (∀ stamp,
      (finish.shownLines library stamp).Sublist (full.shownLines library stamp) ∧
      (twin.shownLines library stamp).Sublist (fullTwin.shownLines library stamp)) ∧
    full.shownNotices = fullTwin.shownNotices := by
  intro finish twin full fullTwin
  obtain ⟨judge, hjudge⟩ := Option.ne_none_iff_exists'.mp hcall
  obtain ⟨another, hanother⟩ := Option.ne_none_iff_exists'.mp hother
  obtain ⟨hevents, hresult, hemissions⟩ := hwork.handOver hlaunch
  have hlength : (call.reports library launch).length ≤ 1 := by
    rw [reports]
    split <;> simp
  refine ⟨hwork.launched hlaunch hcall hother, ?_, ?_, ⟨call.reports library launch, hlength, ?_,
    ?_⟩, fun stamp report => ⟨rfl, rfl⟩, fun stamp => ⟨shownLines_sublist hlibrary hjudge stamp,
    shownLines_sublist hlibrary hanother stamp⟩, ?_⟩
  · rw [show finish = _ from runWith_eq_runUnder hjudge,
      show twin = _ from runWith_eq_runUnder hanother, runUnder, runUnder, hevents, hwork.output,
      Desk.output, Desk.output, hemissions]
  · rw [show finish.exit = _ from exit_run hjudge, show twin.exit = _ from exit_run hanother,
      hresult]
  · rw [show finish = _ from runWith_eq_runUnder hjudge, failures_runUnder]
  · rw [show twin = _ from runWith_eq_runUnder hanother, failures_runUnder, reports, reports,
      hresult]
  · rw [show full.shownNotices = _ from shownNotices_withLog_trace hlibrary,
      show fullTwin.shownNotices = _ from shownNotices_withLog_trace hlibrary, Desk.notices,
      Desk.notices, hemissions]

/-- A runner that cannot be started, on terminals: one call shows everything, and in colours; the
other is named otherwise, has a filter that is not text and forbids colours. -/
theorem run_diagnostics_refused :
    let launch : Launcher (Bytes × Nat) := fun (input, clock) command =>
      ((input, clock + 1), if input = [] ∧ command.args = [[0x61]] then .error .noEntry
        else .ok ⟨.exited 0, input, []⟩)
    let call : Call (Bytes × Nat) := ⟨⟨[("AUTORUN_COMMAND", [0x78]),
      ("AUTORUN_LOG", [0x74, 0x72, 0x61, 0x63, 0x65]), ("CLICOLOR", [0x31])]⟩,
      [[0x70], [0x61]], ⟨Sink.unbounded, true, true⟩, ([], 0)⟩
    let other : Call (Bytes × Nat) := ⟨⟨[("AUTORUN_LOG", [0xff]), ("NO_COLOR", [0x31]),
      ("AUTORUN_COMMAND", [0x78])]⟩, [[0x71], [0x61]], ⟨Sink.unbounded, true, true⟩, ([], 7)⟩
    launch.DependsOn Prod.fst ∧ SameWork Prod.fst call other ∧
    call.launched .standard launch = other.launched .standard launch ∧
    (call.run launch).output = (other.run launch).output ∧
    (call.run launch).exit = (other.run launch).exit ∧
    ((call.run launch).errors.filter Message.isFailure).length =
      ((other.run launch).errors.filter Message.isFailure).length ∧
    call.isColoured .standard = true ∧ other.isColoured .standard = false ∧
    (call.run launch).shownNotices ≠ (other.run launch).shownNotices := by
  intro launch call other
  have hlaunch : launch.DependsOn Prod.fst := by
    rintro ⟨input, clock⟩ ⟨_, other⟩ command rfl
    rfl
  have hwork : SameWork Prod.fst call other := ⟨rfl, rfl, rfl, rfl, rfl⟩
  obtain ⟨hlaunched, houtput, hexit, ⟨reports, -, hreports, htwin⟩, -⟩ :=
    run_diagnostics Library.standard_traceShowsAll hlaunch hwork
      (Option.isSome_iff_ne_none.mp (by decide +kernel))
      (Option.isSome_iff_ne_none.mp (by decide +kernel))
  refine ⟨hlaunch, hwork, hlaunched, houtput, hexit, ?_, by decide +kernel, by decide +kernel,
    by decide +kernel⟩
  rw [run, run, hreports, htwin, List.length_map, List.length_map]

end Call

end Handoff

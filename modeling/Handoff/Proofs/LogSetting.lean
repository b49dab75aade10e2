import Handoff.Program

/-!
# The log filter is a setting of its own

`Call.withLog` sets the log filter of a call anew. Nothing else of the call is read off that
variable, so a run with a given judge of its events stays what it was (`Call.runUnder_withLog`), and
a call with a filter set anew runs as the old one does with the judge of that filter
(`Call.run_withLog`). The notices that are shown are those of the hand-over that the judge lets
through (`Call.shownNotices_runUnder`).
-/

namespace Handoff

variable {ω : Type}

namespace Message

/-- The notice of a message, if it is one. -/
def notice? : Message → Option Log.Notice
  | notice entry _ => some entry
  | runner _ | failure .. => none

@[simp] theorem notice?_notice (entry : Log.Notice) (isTerminal : Bool) :
    (notice entry isTerminal).notice? = some entry := rfl

end Message

/-- The notices that a run has shown, in order. -/
def Finish.shownNotices (finish : Finish ω) : List Log.Notice :=
  finish.errors.filterMap Message.notice?

namespace Call

/-- A call with its log filter set anew. -/
def withLog (call : Call ω) (text : String) : Call ω :=
  { call with
    environment := call.environment.assign Settings.logVariable (Bytes.ofString text) }

variable {library : Library} {launch : Launcher ω} {call : Call ω} {judge : Log.Judge}
  {text : String}

theorem value?_withLog {name : String} (h : name ≠ Settings.logVariable) :
    (call.withLog text).environment.value? name = call.environment.value? name :=
  Environment.value?_assign_of_ne h

theorem runner_withLog : (call.withLog text).settings.runner = call.settings.runner :=
  Settings.runner_ofEnvironment_congr (value?_withLog (by decide))

theorem callsSubcommand_withLog :
    (call.withLog text).environment.callsSubcommand = call.environment.callsSubcommand := by
  have hvalue : (call.withLog text).environment.value? "CARGO" = call.environment.value? "CARGO" :=
    value?_withLog (by decide)
  exact congrArg Option.isSome hvalue

theorem isColoured_withLog : (call.withLog text).isColoured library = call.isColoured library :=
  congrArg (library.colours · call.streams.outputIsTerminal)
    (ColourSettings.ofEnvironment_assign (by decide))

theorem forwarded_withLog : (call.withLog text).forwarded = call.forwarded := by
  rw [forwarded, forwarded, callsSubcommand_withLog]
  rfl

/-- With a given judge, the filter that is set makes no difference. -/
theorem runUnder_withLog :
    (call.withLog text).runUnder library launch judge = call.runUnder library launch judge := by
  have hfailure : (call.withLog text).failure library = call.failure library := by
    funext result
    cases result <;> simp only [failure, isColoured_withLog]
  simp only [runUnder, handOver, hfailure, runner_withLog, forwarded_withLog]
  rfl

theorem logFilter_withLog (h : Utf8.decode? (Bytes.ofString text) = some text.toList) :
    (call.withLog text).settings.logFilter = text := by
  have hvalue : (call.withLog text).environment.text? Settings.logVariable = some text := by
    simp [withLog, Environment.text?, h]
  simp [settings, Settings.ofEnvironment, Settings.ofLookup, hvalue]

theorem run_withLog (h : Utf8.decode? (Bytes.ofString text) = some text.toList)
    (hjudge : library.judge? text = some judge) :
    (call.withLog text).runWith library launch = call.runUnder library launch judge := by
  rw [runWith_eq_runUnder (by rwa [logFilter_withLog h]), runUnder_withLog]

/-- What is shown of the notices of a run is what its judge lets through. -/
theorem shownNotices_runUnder : (call.runUnder library launch judge).shownNotices =
    (call.handOver launch).state.notices.filter fun notice => judge notice.metadata := by
  have hfailure :
      (call.failure library (call.handOver launch).result).filterMap Message.notice? = [] := by
    cases (call.handOver launch).result <;> rfl
  simp only [Finish.shownNotices, runUnder, List.filterMap_append, hfailure, List.append_nil,
    Desk.notices]
  induction (call.handOver launch).state.emissions with
  | nil => rfl
  | cons emission emissions ih =>
    cases emission with
    | notice notice =>
      cases hshows : judge notice.metadata <;>
        simp [Message.ofEmission?, hshows, ih]
    | written output errors => exact ih

end Call

end Handoff

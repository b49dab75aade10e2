import Handoff.Delegation
import Handoff.HandOver
import Handoff.Invocation
import Handoff.Library
import Handoff.Streams

/-!
The whole program, from the way it is called to its exit code.

The settings come from the environment, the arguments from the call; one hand-over to the runner
follows. Standard error shows the notices that the log filter lets through, what the runner writes
there, and the error of a failed hand-over.

`Call.runWith` runs the program with any library, `Call.run` with the standard one.
-/

namespace Handoff

/-- All that a run depends on. -/
structure Call (ω : Type) where
  environment : Environment
  /-- The program name and the arguments after it. -/
  argv : List Bytes
  streams : Streams
  world : ω

/-- A piece of the standard error. -/
inductive Message where
  | notice (notice : Log.Notice) (isTerminal : Bool)
  | runner (bytes : Bytes)
  | failure (report : Report) (coloured : Bool)
  deriving DecidableEq, Repr

/-- What a run leaves behind. -/
structure Finish (ω : Type) where
  exit : UInt8
  output : Bytes
  errors : List Message
  /-- The world after it; none if the run was broken off before it began. -/
  world : Option ω

namespace Message

/-- The word in front of an error. -/
def errorLabel (coloured : Bool) : String :=
  if coloured then "\x1b[91merror:\x1b[0m" else "error:"

/-- A message as it is written, with a time stamp in front of each notice. -/
def renderWith (library : Library) (stamp : String) : Message → Bytes
  | .notice entry isTerminal =>
    Bytes.ofString (entry.lineIn (library.layout isTerminal) library.visible stamp ++ "\n")
  | .runner bytes => bytes
  | .failure report coloured =>
    Bytes.ofString (errorLabel coloured ++ " " ++ report.full ++ "\n")

def render (stamp : String) : Message → Bytes := renderWith .standard stamp

/-- The message of an emission, if it is shown. -/
def ofEmission? (judge : Log.Judge) (isTerminal : Bool) : Emission → Option Message
  | .notice entry => if judge entry.metadata then some (.notice entry isTerminal) else none
  | .written _ errors => some (.runner errors)

end Message

namespace Environment

/-- Whether the program is called as a subcommand: its caller then says where it is itself. -/
def callsSubcommand (env : Environment) : Bool := env.isSet "CARGO"

end Environment

namespace Call

variable {ω : Type}

def settings (call : Call ω) : Settings := .ofEnvironment call.environment

/-- The arguments that are handed over. -/
def forwarded (call : Call ω) : List Bytes :=
  Invocation.forwarded ⟨call.argv, call.environment.callsSubcommand⟩

/-- The one hand-over of a run. -/
def handOver (launch : Launcher ω) (call : Call ω) : HandOver (Desk ω) DelegationFault :=
  Handoff.handOver (delegate launch call.settings.runner) call.forwarded call.streams.output.handle
    ⟨call.world, []⟩

/-- The exit code that stands for an outcome. -/
def exitCode {ε : Type} : Except ε Int32 → UInt8
  | .ok code => code.toUInt32.toUInt8
  | .error _ => 1

/-- Whether the errors of a run are coloured. -/
def isColoured (library : Library) (call : Call ω) : Bool :=
  library.colours (.ofEnvironment call.environment) call.streams.outputIsTerminal

/-- The message of a failed hand-over. -/
def failure (library : Library) (call : Call ω) :
    Except (Failure DelegationFault) Int32 → List Message
  | .ok _ => []
  | .error failure =>
    [.failure (failure.report (DelegationFault.reportIn library.visible))
      (call.isColoured library)]

/-- A run with a given judge of its events. -/
def runUnder (library : Library) (launch : Launcher ω) (judge : Log.Judge) (call : Call ω) :
    Finish ω :=
  let done := call.handOver launch
  { exit := exitCode done.result
    output := call.streams.output.arrived (Event.written done.events) ++ done.state.output
    errors :=
      done.state.emissions.filterMap (Message.ofEmission? judge call.streams.errorsIsTerminal) ++
        call.failure library done.result
    world := some done.state.world }

/-- A run that is broken off because the reading of its log filter is. -/
def brokenOff : Finish ω := ⟨101, [], [], none⟩

/-- Runs the program with a library. -/
def runWith (library : Library) (launch : Launcher ω) (call : Call ω) : Finish ω :=
  match library.judge? call.settings.logFilter with
  | some judge => call.runUnder library launch judge
  | none => brokenOff

theorem runWith_eq_runUnder {library : Library} {launch : Launcher ω} {judge : Log.Judge}
    {call : Call ω} (h : library.judge? call.settings.logFilter = some judge) :
    call.runWith library launch = call.runUnder library launch judge := by rw [runWith, h]

/-- Runs the program. -/
def run (launch : Launcher ω) (call : Call ω) : Finish ω := call.runWith .standard launch

end Call

end Handoff

import Handoff.CommandLine
import Handoff.Log.Layout
import Handoff.Status

/-! What the program logs about a delegation. -/

namespace Handoff

namespace Log

inductive Notice where
  | delegating (command : CommandLine)
  | finished (code : UInt8)
  | terminated (signal : Signal) (coreDumped : Bool)
  deriving DecidableEq, Repr

namespace Notice

def severity : Notice → Severity
  | delegating _ | finished _ => .debug
  | terminated .. => .warn

/-- A signal by its number, and by its name if it has one. -/
def signalText (signal : Signal) : String :=
  let name :=
    match signal.shortName? with
    | some name => " (SIG" ++ name ++ ")"
    | none => ""
  "signal: " ++ toString signal.number ++ name

/-- The status of a runner that a signal has ended. -/
def statusText (signal : Signal) (coreDumped : Bool) : String :=
  signalText signal ++ if coreDumped then " (core dumped)" else ""

def message : Notice → String
  | delegating _ => "delegating to test runner"
  | finished _ => "test runner finished"
  | terminated .. => "test runner terminated without an exit code"

/-- The name of the one field that a notice has beside its message. -/
def fieldName : Notice → String
  | delegating _ => "command"
  | finished _ => "code"
  | terminated .. => "status"

/-- The value of that field. `visible` tells which characters beyond ASCII are shown. -/
def fieldText (visible : Char → Bool) : Notice → String
  | delegating command => String.ofList (command.describe visible)
  | finished code => toString code.toNat
  | terminated signal coreDumped => statusText signal coreDumped

/-- What a filter sees of a notice. -/
def metadata (notice : Notice) : Metadata :=
  ⟨ownTarget, notice.severity, ["message".toList, notice.fieldName.toList]⟩

/-- A notice as a line of a layout, without the end of the line. -/
def lineIn (layout : Layout) (visible : Char → Bool) (stamp : String) (notice : Notice) : String :=
  layout.head stamp notice.severity ++ notice.message ++ layout.field notice.fieldName ++
    notice.fieldText visible

/-- A notice as a plain line without a time. -/
def lineOf (visible : Char → Bool) (notice : Notice) : String :=
  notice.severity.label ++ " " ++ notice.message ++ Layout.plain.field notice.fieldName ++
    notice.fieldText visible

def line (notice : Notice) : String := notice.lineOf Quoted.isVisible

end Notice

end Log

end Handoff

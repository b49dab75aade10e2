import Handoff.Report
import Handoff.Bytes

/-! Whatever can run tests for a list of arguments and answer with an exit code. -/

namespace Handoff

/-- A facility with its own state; what the arguments mean is up to it. -/
abbrev Facility (σ ε : Type) := σ → List Bytes → σ × Except ε Int32

/-- A facility that answers from a list, whatever the arguments, and fails when it is used up. -/
def Facility.scripted : Facility (List (Except Report Int32)) Report
  | [], _ => ([], .error (.ofMessage "facility script exhausted"))
  | answer :: answers, _ => (answers, answer)

end Handoff

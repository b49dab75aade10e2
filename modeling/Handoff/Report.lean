/-! Errors as they are told to a person: what failed, and the causes that led to it. -/

namespace Handoff

/-- An error with its causes, the outermost first. There is always a message. -/
structure Report where
  message : String
  causes : List String
  deriving DecidableEq, Repr

namespace Report

/-- An error without a further cause. -/
def ofMessage (message : String) : Report := ⟨message, []⟩

/-- All texts of a report, from the outermost to the root. -/
def chain (report : Report) : List String := report.message :: report.causes

/-- The texts of a report on one line. -/
def full (report : Report) : String := ": ".intercalate report.chain

/-- Says what was being done when an error arose. -/
def within (report : Report) (context : String) : Report := ⟨context, report.chain⟩

end Report

end Handoff

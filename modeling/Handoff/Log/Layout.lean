import Handoff.Log.Level

/-!
How the lines of the log are laid out.

A line has the time and the severity in front, then the message of the event and each of its fields
with its value. Where a terminal shows the line, the parts around message and values are set off by
escape sequences.
-/

namespace Handoff.Log

structure Layout where
  /-- What stands in front of the message, given the time. -/
  head : String → Severity → String
  /-- What stands in front of the value of a field, given its name. -/
  field : String → String

/-- The escape sequence that sets the colour of a severity. -/
def Severity.colour : Severity → String
  | warn => "33"
  | debug => "34"

namespace Layout

/-- The layout of lines that no terminal shows. -/
def plain : Layout where
  head stamp severity := stamp ++ " " ++ severity.label ++ " "
  field name := " " ++ name ++ "="

/-- A text between two escape sequences, one that sets a style and one that sets it back. -/
def styled (style text : String) : String := "\x1b[" ++ style ++ "m" ++ text ++ "\x1b[0m"

/-- The layout of lines on a terminal. -/
def terminal : Layout where
  head stamp severity := styled "2" stamp ++ " " ++ styled severity.colour severity.label ++ " "
  field name := " " ++ styled "3" name ++ styled "2" "="

/-- The layout of lines, given whether a terminal shows them. -/
def standard (isTerminal : Bool) : Layout := if isTerminal then terminal else plain

end Layout

end Handoff.Log

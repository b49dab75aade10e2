/-!
How much is logged.

A level is a bound on the severities that are shown; each admits what the one before it admits and
one severity more. Levels are written by name or by number.

`Metadata` is what is known of an event before it is decided whether it is shown.
-/

namespace Handoff.Log

inductive Level where
  | off | error | warn | info | debug | trace
  deriving DecidableEq, Repr

/-- The severities that the program logs with. -/
inductive Severity where
  | warn | debug
  deriving DecidableEq, Repr

namespace Level

/-- The number of a level: how many severities it admits. -/
def verbosity : Level → Nat
  | off => 0
  | error => 1
  | warn => 2
  | info => 3
  | debug => 4
  | trace => 5

def name : Level → String
  | off => "off"
  | error => "error"
  | warn => "warn"
  | info => "info"
  | debug => "debug"
  | trace => "trace"

def all : List Level := [off, error, warn, info, debug, trace]

def ofVerbosity? (n : Nat) : Option Level := all.find? fun level => level.verbosity = n

/-- The level with a name, in letters of either case. -/
def ofName? (cs : List Char) : Option Level :=
  all.find? fun level => level.name.toList = cs.map Char.toLower

/-- The value of decimal digits; there must be one at least. -/
def decimal? (cs : List Char) : Option Nat :=
  if cs ≠ [] ∧ cs.all Char.isDigit then
    some (cs.foldl (fun n c => n * 10 + (c.toNat - '0'.toNat)) 0)
  else none

/-- The value of decimal digits that may follow a plus sign. -/
def number? : List Char → Option Nat
  | '+' :: cs => decimal? cs
  | cs => decimal? cs

/-- Reads a level, by number or by name. -/
def ofText? (cs : List Char) : Option Level := ((number? cs).bind ofVerbosity?).or (ofName? cs)

end Level

namespace Severity

/-- The least level that admits a severity. -/
def level : Severity → Level
  | warn => .warn
  | debug => .debug

/-- The name of a severity, set in five columns. -/
def label : Severity → String
  | warn => " WARN"
  | debug => "DEBUG"

end Severity

/-- What a filter sees of an event. -/
structure Metadata where
  target : List Char
  severity : Severity
  /-- The names of its fields. -/
  fields : List (List Char)
  deriving DecidableEq, Repr

/-- The target of the program's own events. -/
def ownTarget : List Char := "cargo_autorun".toList

/-- Which events are shown. -/
abbrev Judge := Metadata → Bool

/-- Whether a level admits a severity. -/
def Level.admits (level : Level) (severity : Severity) : Bool :=
  severity.level.verbosity ≤ level.verbosity

end Handoff.Log

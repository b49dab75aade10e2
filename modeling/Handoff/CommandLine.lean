import Handoff.Quoted

/-!
Command lines, and how they are shown.

A command line is shown on one line, its parts quoted and parted by single spaces. A part that
holds a NUL byte could not be passed on, and is only said to be so.
-/

namespace Handoff

/-- The vector that a program is started with. -/
structure CommandLine where
  program : Bytes
  args : List Bytes
  deriving DecidableEq, Repr

/-- Whether a byte string holds a NUL byte, which ends a string for the system. -/
def Bytes.hasNul (bytes : Bytes) : Bool := bytes.contains 0

namespace CommandLine

/-- Whether a part of a command line holds a NUL byte. -/
def hasNul (command : CommandLine) : Bool :=
  command.program.hasNul || command.args.any Bytes.hasNul

/-- A part of a command line, quoted in some style. -/
def describePart (style : Quoted.Style) (part : Bytes) : List Char :=
  if part.hasNul then "\"<string-with-nul>\"".toList else style.bytes part

/-- A command line, with each part quoted. `visible` tells which characters beyond ASCII are
shown. -/
def describe (visible : Char → Bool) (command : CommandLine) : List Char :=
  List.intercalate [' '] (describePart (.strictWith visible) command.program ::
    command.args.map (describePart (.plainWith visible)))

end CommandLine

end Handoff

import Handoff.CommandLine
import Handoff.Text.Blank

/-!
The external command that runs the tests.

A runner is a program and the arguments that it needs before the forwarded ones. It is read off a
text by cutting it into words: there is no quoting in such a text, so a word holds no white space.
-/

namespace Handoff

structure Runner where
  program : String
  leadingArgs : List String
  deriving DecidableEq, Repr

namespace Runner

/-- The runner whose words are given; without a first word there is none. -/
def ofWords? : List (List Char) → Option Runner
  | [] => none
  | program :: args => some ⟨String.ofList program, args.map String.ofList⟩

/-- The runner that a text names; a blank text names none. -/
def ofText? (text : String) : Option Runner := ofWords? (Text.words text.toList)

/-- The text of the default runner. -/
def defaultText : String := "cargo test"

def default : Runner := ⟨"cargo", ["test"]⟩

instance : Inhabited Runner := ⟨default⟩

/-- All words of a runner, its program first. -/
def words (runner : Runner) : List String := runner.program :: runner.leadingArgs

/-- What is started for the given arguments: they follow the runner's own, byte for byte. -/
def commandLine (runner : Runner) (args : List Bytes) : CommandLine :=
  ⟨Bytes.ofString runner.program, runner.leadingArgs.map Bytes.ofString ++ args⟩

theorem ofText?_defaultText : ofText? defaultText = some default := by decide +kernel

theorem ofText?_eq_none_iff {text : String} :
    ofText? text = none ↔ Text.words text.toList = [] := by
  unfold ofText?
  cases Text.words text.toList <;> simp [ofWords?]

/-- Quoted strings in brackets. -/
def list (items : List String) : String := "[" ++ ", ".intercalate (items.map Quoted.string) ++ "]"

/-- The two parts of a runner, each quoted. -/
def describe (runner : Runner) : String :=
  "CommandFacility \x7b program: " ++ Quoted.string runner.program ++ ", leading_args: " ++
    list runner.leadingArgs ++ " \x7d"

end Runner

end Handoff

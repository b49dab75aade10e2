import Handoff.Shell.Lookup
import Handoff.Shell.Redirect

/-!
Calls of the commands that a shell runs itself.

A command answers with an exit code. What it puts out is held back until it ends. Some commands
run others, which they do through an `Evaluator`.
-/

namespace Handoff.Shell

open Handoff.Host

/-- How a command is run. -/
structure Flags where
  /-- Whether the process ends with it. -/
  mayEnd : Bool
  /-- Whether its failure is asked for, so that it does not end a shell. -/
  isTested : Bool
  deriving DecidableEq, Repr

namespace Flags

def none : Flags := ⟨false, false⟩

def tested : Flags := ⟨false, true⟩

/-- The same, but the process goes on. -/
def inside (f : Flags) : Flags := { f with mayEnd := false }

end Flags

/-- Where a script comes from, as far as that matters. -/
inductive Origin where
  | text
  | file
  /-- The script that the shell was started for. -/
  | main
  deriving DecidableEq, Repr

/-- What runs commands and scripts. -/
structure Evaluator where
  command : Command → Flags → Run Nat
  script : Origin → Source → Flags → Run Nat
  output : Output

/-- A call of a command of the shell. -/
structure Call where
  evaluator : Evaluator
  flags : Flags
  name : Text
  args : List Text

/-- Puts something out. -/
def put (text : Text) : Run Unit := modify fun s => { s with held := s.held ++ text }

def putString (text : String) : Run Unit := put text.toList

def putLine (text : Text) : Run Unit := put (text ++ ['\n'])

/-- Writes what has been put out; says whether that went well. -/
def flush : Run Bool := do
  let s ← get
  if s.held.isEmpty then return true
  modify fun s => { s with held := [] }
  match ← act (s.descriptors.write 1 s.held.bytes) with
  | .ok () => return true
  | .error _ => return false

/-! ### Options -/

private def illegalOption {α : Type} (c : Char) : Run α :=
  failWith ("Illegal option -".toList ++ [c])

/-- How an option of a command takes a value: its letter is followed by a colon then. -/
private def takesValue? (options : Text) (c : Char) : Option Bool :=
  match options with
  | [] => none
  | d :: ':' :: rest => if c = d then some true else takesValue? rest c
  | d :: rest => if c = d then some false else takesValue? rest c

private def readLetters (options : Text) :
    Text → List Text → Run (List (Char × Text) × List Text)
  | [], args => return ([], args)
  | c :: cs, args => do
    match takesValue? options c with
    | none => illegalOption c
    | some false =>
      let (found, args) ← readLetters options cs args
      return ((c, []) :: found, args)
    | some true =>
      match cs, args with
      | [], [] => failWith ("No arg for -".toList ++ c :: " option".toList)
      | [], value :: args => return ([(c, value)], args)
      | cs, args => return ([(c, cs)], args)

private def readOptionsWithin (options : Text) :
    Nat → List Text → Run (List (Char × Text) × List Text)
  | fuel + 1, arg :: args => do
    match arg with
    | ['-', '-'] => return ([], args)
    | '-' :: c :: cs =>
      let (found, args) ← readLetters options (c :: cs) args
      let (more, args) ← readOptionsWithin options fuel args
      return (found ++ more, args)
    | _ => return ([], arg :: args)
  | _, args => return ([], args)

/-- The options that a call begins with, each with its value, and the operands. -/
def Call.options (call : Call) (options : String) : Run (List (Char × Text) × List Text) :=
  readOptionsWithin options.toList call.args.length call.args

/-- The operands of a call that takes no options. -/
def Call.operands (call : Call) : Run (List Text) := do return (← call.options "").2

end Handoff.Shell

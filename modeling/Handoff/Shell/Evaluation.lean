import Handoff.Shell.SimpleCommand

/-!
Running commands and scripts.

`evaluate` runs one command, with the traps that are due before and after it, and ends the process
where that is asked for. `runScript` reads a script command by command and runs each as soon as it
has been read. Both run other commands through an `Evaluator`; `Evaluator.ofDepth` ties them
together for commands that run one another up to a depth, as the stack of a process is bounded.
-/

namespace Handoff.Shell

open Handoff.Host

/-- Counts a command against what the machine may run. -/
private def spend : Run Unit := do
  let s ← get
  match s.machine.budget with
  | 0 => throw .exhausted
  | budget + 1 => set { s with machine := { s.machine with budget } }

/-- What a command came to. -/
private structure Outcome where
  status : Nat
  /-- Whether it becomes the exit code of the last command. -/
  isSet : Bool
  /-- Whether a failure ends a shell that is to end on failures. -/
  counts : Bool

private def settled (status : Nat) : Outcome := ⟨status, true, false⟩

private def counted (status : Nat) : Outcome := ⟨status, true, true⟩

/-! ### Loops -/

/-- What is left to be passed over when a round of a loop is over. -/
private def leaveRound : Run Skip := do
  let s ← get
  match s.skip with
  | .none => return .none
  | .return given => return .return given
  | skip =>
    if s.skipCount ≤ 1 then
      set { s with skip := .none, skipCount := 0 }
      return skip
    else
      set { s with skipCount := s.skipCount - 1 }
      return .leave

/-- Runs something as a loop. -/
private def asLoop (body : Run Nat) : Run Nat := do
  modify fun s => { s with loops := s.loops + 1 }
  let status ← body
  modify fun s => { s with loops := s.loops - 1 }
  return status

private def loopWithin (e : Evaluator) (isUntil : Bool) (test body : Command) (flags : Flags) :
    (fuel status : Nat) → Run Nat
  | 0, _ => throw .exhausted
  | fuel + 1, status => do
    let code ← e.command test .tested
    match ← leaveRound with
    | .return true => return code
    | .return false | .leave => return status
    | .again => loopWithin e isUntil test body flags fuel status
    | .none =>
      if (code = 0) = isUntil then return status
      let status ← e.command body flags
      match ← leaveRound with
      | .return _ | .leave => return status
      | .again | .none => loopWithin e isUntil test body flags fuel status

private def eachOf (e : Evaluator) (name : String) (body : Command) (flags : Flags) :
    (status : Nat) → List Text → Run Nat
  | status, [] => return status
  | _, value :: values => do
    assign name value
    let status ← e.command body flags
    match ← leaveRound with
    | .return _ | .leave => return status
    | .again | .none => eachOf e name body flags status values

/-! ### Commands made of others -/

private def sequence (e : Evaluator) (flags : Flags) : List Command → Run Outcome
  | [] => return settled 0
  | [command] => return settled (← e.command command flags)
  | command :: commands => do
    let status ← e.command command flags.inside
    if (← get).skip ≠ .none then return ⟨status, false, false⟩
    sequence e flags commands

/-- Runs a command, and another one if the first goes as is said. -/
private def andThen (e : Evaluator) (goesOn : Nat → Bool) (first second : Command)
    (flags : Flags) : Run Outcome := do
  let status ← e.command first .tested
  if !goesOn status || (← get).skip ≠ .none then return ⟨status, false, false⟩
  return settled (← e.command second flags)

private def conditional (e : Evaluator) (test body otherwise : Command) (flags : Flags) :
    Run Outcome := do
  let status ← e.command test .tested
  if (← get).skip ≠ .none then return ⟨status, false, false⟩
  if status = 0 then return settled (← e.command body flags)
  if otherwise.isNothing then return settled 0
  return settled (← e.command otherwise flags)

/-- Whether one of some patterns matches. -/
private def matchesAny (e : Evaluator) (text : Text) : List Word → Run Bool
  | [] => return false
  | pattern :: patterns => do
    let spans ← expand e.output .pattern pattern
    let elements := Pattern.compile (Glyph.patternOf (spans.flatMap Span.glyphs))
    if Pattern.fits elements text then return true
    matchesAny e text patterns

private def choose (e : Evaluator) (text : Text) (flags : Flags) : List Case → Run Nat
  | [] => return 0
  | .on patterns body :: cases => do
    if ← matchesAny e text patterns then
      if body.isNothing then return 0 else e.command body flags
    else choose e text flags cases

private def subshell (e : Evaluator) (line : Nat) (body : Command)
    (redirections : List Redirection) (flags : Flags) : Run Nat := do
  atLine line
  let ready ← prepare e.output redirections
  let inner : Run Unit := do
    redirect e.output ready
    discard (e.command body { flags with mayEnd := true })
  if flags.mayEnd && !(← get).hasTraps then
    modify Session.apart
    inner
    return 0
  else apart e inner

private def redirected (e : Evaluator) (line : Nat) (body : Command)
    (redirections : List Redirection) (flags : Flags) : Run Nat := do
  atLine line
  let ready ← prepare e.output redirections
  let before := (← get).descriptors
  takingBack before ready false do
    if ← redirectSafely e.output ready then e.command body flags.inside else return 2

private def define (name : String) (body : Command) : Run Unit := modify fun s =>
  { s with
    functions := (name, body) :: s.functions.filter (·.1 ≠ name)
    hashed := s.hashed.filter (·.1 ≠ name) }

/-- Runs what a command says. -/
private def perform (e : Evaluator) (flags : Flags) : Command → Run Outcome
  | .nothing => return ⟨0, false, false⟩
  | .simple line assignments words redirections => do
    return counted (← runSimple e line assignments words redirections flags)
  | .pipeline commands inBackground => do
    commands.forM lookUpEarly
    if inBackground then
      runPipelineInBackground e commands flags
      return counted 0
    else return counted (← runPipeline e commands flags)
  | .subshell line body redirections => do
    return counted (← subshell e line body redirections flags)
  | .background line body redirections => do
    atLine line
    let ready ← prepare e.output redirections
    inBackground e do
      redirect e.output ready
      discard (e.command body { Flags.none with mayEnd := true })
    return counted 0
  | .redirected line body redirections => do
    return settled (← redirected e line body redirections flags)
  | .both first second => andThen e (· = 0) first second flags
  | .either first second => andThen e (· ≠ 0) first second flags
  | .sequence commands => sequence e flags commands
  | .negated body => do return settled (if (← e.command body .tested) = 0 then 1 else 0)
  | .conditional test body otherwise => conditional e test body otherwise flags
  | .loop isUntil test body => do
    return settled (← asLoop (loopWithin e isUntil test body flags.inside patience 0))
  | .each line name words body => do
    atLine line
    let values ← words.mapM (expandFields e.output)
    return settled (← asLoop (eachOf e name body flags.inside 0 values.flatten))
  | .choice line word cases => do
    atLine line
    let text ← expandText e.output .text word
    return settled (← choose e text flags cases)
  | .define name body => do
    define name body
    return settled 0

/-- Runs a command; gives its exit code. -/
def evaluate (e : Evaluator) (command : Command) (flags : Flags) : Run Nat := do
  spend
  let isIdle := (← get).isOn .noexec || command.isNothing
  unless isIdle do runTraps e
  let outcome ← if isIdle then pure ⟨0, false, false⟩ else perform e flags command
  if outcome.isSet then setStatus outcome.status
  runTraps e
  let mustEnd := outcome.counts && outcome.status ≠ 0 && !flags.isTested && (← get).isOn .errexit
  if mustEnd || flags.mayEnd then throw .ended
  return outcome.status

/-! ### Scripts -/

/-- Asks for a command if someone is there to give it. -/
private def prompt (e : Evaluator) (origin : Origin) (name : String) (count : Nat) :
    Run Unit := do
  if origin = .main && (← get).isOn .interactive then
    (List.replicate count name).forM fun name => do tell 2 (← expandPrompt e.output name)

/-- Shows the lines that have been begun, if that is asked for. -/
private def showLines (e : Evaluator) (origin : Origin) (wasVerbose : Bool) (reader : Reader) :
    Run Reader := do
  prompt e origin "PS2" (reader.source.seen.length - 1)
  if origin ≠ .text && wasVerbose then tell 2 reader.source.seen.reverse.flatten
  return { reader with source := { reader.source with seen := [] } }

private def runCommands (e : Evaluator) (origin : Origin) (flags : Flags) :
    (fuel status : Nat) → Reader → Run Nat
  | 0, _, _ => throw .exhausted
  | fuel + 1, status, reader => do
    prompt e origin "PS1" 1
    let s ← get
    let (result, reader) := { reader with aliases := s.aliases, documents := s.documents }.command
    set { s with
      documents := reader.documents, readLine := reader.source.line, isReadOut := reader.isAtEnd }
    let reader ← showLines e origin (s.isOn .verbose) reader
    match result with
    | .error fault => failSyntax fault
    | .ok none => return status
    | .ok (some command) =>
      let code ← e.command command { flags with mayEnd := flags.mayEnd && reader.isAtEnd }
      let status := if command.isNothing then status else code
      if (← get).skip = .none then runCommands e origin flags fuel status reader
      else return status

/-- Runs a script; gives the exit code of its last command. -/
def runScript (e : Evaluator) (origin : Origin) (source : Source) (flags : Flags) : Run Nat := do
  let outerLine := (← get).readLine
  let status ← runCommands e origin flags patience 0 (Reader.ofSource source [] #[])
  modify fun s =>
    let isLeft := origin ≠ .text && s.skip matches .return _
    { s with readLine := outerLine, skip := if isLeft then .none else s.skip }
  return status

/-! ### Evaluators -/

namespace Evaluator

/-- The end of a process whose stack is used up. -/
private def overflow {α : Type} : Run α := throw (.killed ⟨11⟩)

/-- Runs commands that run one another up to a depth. -/
def ofDepth : Nat → Evaluator
  | 0 => ⟨fun _ _ => overflow, fun _ _ _ => overflow, fun _ => overflow⟩
  | depth + 1 =>
    let e := ofDepth depth
    ⟨evaluate e, runScript e, takeOutput e⟩

/-- How deep commands may run one another. -/
def maxDepth : Nat := 2000

def all : Evaluator := ofDepth maxDepth

end Evaluator

end Handoff.Shell

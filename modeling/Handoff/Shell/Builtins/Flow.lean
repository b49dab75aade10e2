import Handoff.Shell.Builtins.Call
import Handoff.Shell.Signals

/-! Commands that say how a script goes on. -/

namespace Handoff.Shell.Call

open Handoff.Host

/-- Leaves loops, or goes on with their next rounds. -/
def leave (call : Call) (isAgain : Bool) : Run Nat := do
  let n ←
    match call.args with
    | [] => pure 1
    | arg :: _ =>
      let n ← countOf arg
      if n = 0 then failWith (illegalNumber arg) else pure n
  let s ← get
  let n := min n s.loops
  if n ≠ 0 then set { s with skip := if isAgain then .again else .leave, skipCount := n }
  return 0

def «return» (call : Call) : Run Nat := do
  match call.args with
  | [] =>
    modify fun s => { s with skip := .return false }
    return (← get).status
  | arg :: _ =>
    let code ← countOf arg
    modify fun s => { s with skip := .return true }
    return code

def exit (call : Call) : Run Nat := do
  if let arg :: _ := call.args then
    let code ← countOf arg
    modify fun s => { s with savedStatus := some code }
  throw .exited

private def joined : List Text → Text
  | [] => []
  | [arg] => arg
  | arg :: args => arg ++ ' ' :: joined args

def eval (call : Call) : Run Nat := do
  if call.args.isEmpty then return 0
  let source := Source.ofText (joined call.args)
  call.evaluator.script .text source call.flags.inside

/-! ### Files -/

/-- The path of a script that is to be run here: a name without a slash is searched for. -/
private def scriptPath (name : Text) : Run Text := do
  if name.contains '/' then return name
  let s ← get
  let folders := Image.searchFolders s.path.bytes
  let isFile (path : Bytes) : Bool :=
    match s.machine.resolve s.folder path with
    | .ok (.file _) | .ok (.tool _) | .ok .foreign => true
    | _ => false
  match (folders.map fun folder => Image.pathIn folder name.bytes).find? isFile with
  | some path => return path.octets
  | none => failWith (name ++ ": not found".toList)

/-- Opens a script; gives what it says. What cannot be read says nothing. -/
def openScript (path : Text) : Run Source := do
  let s ← get
  match ← act (openPath s.context .read path.bytes) with
  | .ok index =>
    let content ← act (Descriptors.readAll [(0, index)] 0)
    return Source.ofBytes (content.toOption.getD [])
  | .error e =>
    failWith ("cannot open ".toList ++ path ++ ": ".toList ++ (reasonOf "No such file" e).toList)

/-- Runs a script as a part of this one. -/
def source (call : Call) : Run Nat := do
  match ← call.operands with
  | [] => return 0
  | name :: _ =>
    let path ← scriptPath name
    let source ← openScript path
    modify fun s => { s with commandName := some path }
    call.evaluator.script .file source .none

/-- Goes on as another program. -/
def exec (call : Call) : Run Nat := do
  match call.args with
  | [] => return 0
  | name :: args => become (← get).lookup none name args

/-! ### Traps -/

private def listTraps : Run Unit := do
  let s ← get
  (List.range (Signal.last + 1)).forM fun n => do
    if let some action := s.trap? n then
      put ("trap -- ".toList ++ quoteText action ++ ' ' :: (SignalName.name n).toList ++ ['\n'])

/-- Sets or takes back what is run for a signal. -/
private def setTrap (action : Option Text) (n : Nat) : Run Unit := modify fun s =>
  let others := s.traps.filter (·.1 ≠ n)
  let traps := match action with
    | some action => (n, action) :: others
    | none => others
  let ignored :=
    if n = 0 ∨ s.deaf.contains n then s.ignored
    else if action = some [] then n :: s.ignored.filter (· ≠ n)
    else s.ignored.filter (· ≠ n)
  { s with traps, ignored }

private def setTraps (action : Option Text) : List Text → Run Nat
  | [] => return 0
  | name :: names => do
    match SignalName.ofText? 0 name with
    | none =>
      tell 2 ("trap: ".toList ++ name ++ ": bad trap\n".toList)
      return 1
    | some n =>
      setTrap action n
      setTraps action names

def trap (call : Call) : Run Nat := do
  match ← call.operands with
  | [] =>
    listTraps
    return 0
  | action :: names =>
    if names.isEmpty || (SignalName.ofNumber? action).isSome then
      setTraps none (action :: names)
    else setTraps (if action = ['-'] then none else some action) names

end Handoff.Shell.Call

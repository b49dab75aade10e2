import Handoff.Shell.Evaluation

/-!
Starting a shell.

A shell runs a command that it is given, or a script from a file, or what it reads from its
standard input. `invoke` runs a shell from its arguments to its end.
-/

namespace Handoff.Shell

open Handoff.Host

/-! ### The first state -/

/-- The variables that a shell has whatever it is started with. -/
private def usualBindings : Bindings :=
  [("PATH", ⟨some Session.usualPath, false, false⟩), ("PS1", ⟨some ['#', ' '], false, false⟩),
   ("PS2", ⟨some ['>', ' '], false, false⟩), ("PS4", ⟨some ['+', ' '], false, false⟩)]

/-- Takes over the variables of the environment that have the names of variables. -/
private def importBindings (environment : List (Bytes × Bytes)) : Bindings :=
  environment.foldl
    (fun bs (name, value) =>
      if isName name.octets then
        bs.put (String.ofList name.octets) ⟨some value.octets, true, false⟩
      else bs)
    usualBindings

/-- Gives a variable a value, whatever it was; it stays exported. -/
private def Bindings.reset (bs : Bindings) (name : String) (value : Text) : Bindings :=
  bs.put name ⟨some value, (bs.lookup name).any (·.exported), false⟩

/-- The path of the folder: as the environment names it, if that is true. -/
private def placeIn (c : Context) (m : Machine) (bindings : Bindings) : Text :=
  let named := (bindings.value? "PWD").filter fun path =>
    path.head? = some '/' &&
      match m.resolve c.folder path.bytes with
      | .ok (.folder folder) => folder == c.folder
      | _ => false
  named.getD (Call.pathOfFolder c.folder)

/-- A shell before it has looked at its arguments. -/
private def Session.start (starter : Starter) (c : Context) (m : Machine) (name : Text) :
    Session :=
  let bindings := importBindings c.bindings
  let place := placeIn c m bindings
  let bindings := bindings.reset "IFS" Session.usualSeparators
  let bindings := bindings.reset "PPID" (toString c.parent).toList
  { machine := m
    starter
    process := c.process
    parent := c.parent
    root := c.process
    descriptors := c.descriptors
    folder := c.folder
    ignored := c.ignored
    deaf := c.ignored
    bindings := bindings.put "PWD" ⟨some place, true, false⟩
    functions := []
    aliases := []
    hashed := []
    switches := []
    name
    args := []
    cursor := ⟨1, none⟩
    status := 0
    outputStatus := 0
    savedStatus := none
    line := 0
    readLine := 0
    isReadOut := false
    commandName := none
    skip := .none
    skipCount := 0
    loops := 0
    traps := []
    pending := []
    locals := []
    documents := #[]
    jobs := []
    lastJob := none
    isTracing := false
    place
    held := []
    mask := c.mask
    limits := [] }

/-! ### Options -/

/-- What the options of a shell say. -/
private structure Start where
  takesCommand : Bool
  isLogin : Bool
  /-- Options that were taken back. -/
  off : List Switch

/-- Reads the letters of an argument; gives the arguments that are left. -/
private def startLetters (value : Bool) : Start → Text → List Text → Run (Start × List Text)
  | start, [], args => return (start, args)
  | start, 'c' :: cs, args => startLetters value { start with takesCommand := true } cs args
  | start, 'l' :: cs, args => startLetters value { start with isLogin := true } cs args
  | start, 'o' :: cs, name :: args => do
    Call.setNamedSwitch value (some name)
    let off := (if value then none else Switch.ofName? name).toList ++ start.off
    startLetters value { start with off } cs args
  | start, 'o' :: cs, [] => do
    putString (Switch.listing (Switch.all.filter fun s => !start.off.contains s) !value)
    startLetters value start cs []
  | start, c :: cs, args => do
    Call.setLetter value c
    let off := (if value then none else Switch.ofLetter? c).toList ++ start.off
    startLetters value { start with off } cs args

private def startOptions : (fuel : Nat) → Start → List Text → Run (Start × List Text)
  | fuel + 1, start, arg :: args => do
    match arg with
    | ['-'] | ['-', '-'] => return (start, args)
    | '-' :: letters =>
      let (start, args) ← startLetters true start letters args
      startOptions fuel start args
    | '+' :: letters =>
      let (start, args) ← startLetters false start letters args
      startOptions fuel start args
    | _ => return (start, arg :: args)
  | _, start, args => return (start, args)

private def turnOn (switch : Switch) : Run Unit := modify fun s =>
  { s with switches := switch :: s.switches.filter (· ≠ switch) }

/-- A script that a shell is to run. -/
private inductive Script where
  | command (text : Text)
  | file (source : Source)
  /-- The standard input is the script. -/
  | input

/-- Looks at the arguments of a shell. -/
private def readArguments (args : List Text) : Run (Start × Script) := do
  let first := (← get).name.head?
  let start : Start := ⟨false, first = some '-', []⟩
  let (start, args) ← startOptions (args.length + 1) start args
  if args.isEmpty then
    if start.takesCommand then failString "-c requires an argument"
    turnOn .stdin
  if (← get).isOn .interactive && !start.off.contains .monitor then turnOn .monitor
  let named (args : List Text) : Run Unit := modify fun s =>
    match args with
    | [] => s
    | name :: args => { s with name, args }
  let script ←
    match start.takesCommand, args with
    | true, command :: args =>
      named args
      pure (.command command)
    | false, path :: _ =>
      if (← get).isOn .stdin then
        modify fun s => { s with args }
        pure .input
      else
        let source ← Call.openScript path
        named args
        pure (.file source)
    | _, [] => pure .input
  Call.refuseMonitor
  return (start, script)

/-! ### Running -/

/-- What a shell that is logged into runs first: the folders of the search list are chosen anew. -/
private def logIn : Run Unit := setBinding "PATH" (some Session.usualPath) true false

/-- How often a shell that ignores the end of its input says so. -/
private def maxReminders : Nat := 50

/-- Comes to the end of the main script. -/
private def endInput : Run Unit := do
  let s ← get
  if s.isOn .ignoreeof then
    tell 2 (List.replicate maxReminders "\nUse \"exit\" to leave shell.\n".toList).flatten
  else if s.isOn .interactive then tell 2 ['\n']

/-- Runs the main script; the rest of one that is read from a file is given up after an error if
the shell is interactive. -/
private def runMain (e : Evaluator) (source : Source) : Run Unit := do
  let stop ← attempt (discard (e.script .main source .none))
  if let some stop := stop then
    unless stop = .failed && (← get).isOn .interactive do throw stop
  endInput

/-- Runs what a shell finds on its standard input, which it reads at once. -/
private def runInput (e : Evaluator) : Run Unit := do
  let s ← get
  let content ← act (s.descriptors.readAll 0)
  runMain e (Source.ofBytes (content.toOption.getD []))

/-- The number that the environment gives for the next argument is looked at, but not heeded. -/
private def resetCursor : Run Unit := do
  let s ← get
  if let some index := s.value? "OPTIND" then
    set { s with name := "sh".toList }
    discard (countOf index)
  set { s with bindings := s.bindings.reset "OPTIND" ['1'] }

/-- Runs a command that the shell was started for. -/
private def runCommand (e : Evaluator) (text : Text) : Run Unit := do
  let readsInput := (← get).isOn .stdin
  let flags : Flags := { Flags.none with mayEnd := !readsInput }
  match ← attempt (discard (e.script .text (Source.ofText text) flags)) with
  | none => if readsInput then runInput e
  | some stop =>
    if stop = .failed && (← get).isOn .interactive then runInput e else throw stop

/-- What a shell does from its start to its end. -/
private def main (e : Evaluator) (args : List Text) : Run Unit := do
  resetCursor
  let (start, script) ← readArguments args
  if start.isLogin then logIn
  match script with
  | .command text => runCommand e text
  | .file source => runMain e source
  | .input => runInput e

/-- Runs a shell. -/
def invoke (starter : Starter) (c : Context) (name : Bytes) (args : List Bytes) : Act Status := do
  let session := Session.start starter c (← get) name.octets
  asProcess Evaluator.all (main Evaluator.all (args.map Bytes.octets)) session

end Handoff.Shell

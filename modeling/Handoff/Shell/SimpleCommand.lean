import Handoff.Shell.Processes

/-!
Simple commands.

The words of a simple command are expanded, then its redirections are made and its assignments,
and then what its first word names is run: a function, a command of the shell or a program. A
command that stands behind `command` is no function, and keeps its place in a script alive.
-/

namespace Handoff.Shell

open Handoff.Host

/-- Notes the line that a command begins on. -/
def atLine (line : Nat) : Run Unit := modify fun s => { s with line }

/-- Runs something and takes redirections back, unless they are to stay when all goes well. -/
def takingBack {α : Type} (before : Descriptors) (ready : List Ready) (stays : Bool)
    (body : Run α) : Run α := do
  let result ← tryCatch body fun stop => do
    restoreDescriptors before ready
    throw stop
  unless stays do restoreDescriptors before ready
  return result

/-! ### What is run -/

/-- The words of a command as far as they have been expanded. -/
private structure Line where
  fields : List Text
  words : List Word

/-- Expands words up to the first one that gives any fields. -/
private def fill (output : Output) : List Word → Run Line
  | [] => return ⟨[], []⟩
  | word :: words => do
    let fields ← expandFields output word
    if fields.isEmpty then fill output words else return ⟨fields, words⟩

/-- A field by its place, for which more words may have to be expanded. -/
private def Line.reach (line : Line) (output : Output) (place : Nat) :
    Run (Option Text × Line) := do
  match line.fields[place]? with
  | some field => return (some field, line)
  | none =>
    let more ← fill output line.words
    let line : Line := ⟨line.fields ++ more.fields, more.words⟩
    return (line.fields[place]?, line)

/-- Where a command stands among fields, and how it is looked up. -/
private structure Spot where
  place : Nat
  noFunctions : Bool
  /-- Whether it is searched for in the usual folders. -/
  isUsual : Bool

/-- Goes past the options of `command`. There is no spot behind it if it has been called for
itself. -/
private def behindOptions (output : Output) :
    (fuel : Nat) → Spot → Line → Run (Option Spot × Line)
  | 0, _, line => return (none, line)
  | fuel + 1, spot, line => do
    let (field, line) ← line.reach output spot.place
    let next : Spot := { spot with place := spot.place + 1 }
    match field with
    | none => return (none, line)
    | some ['-', '-'] =>
      let (field, line) ← line.reach output next.place
      return (field.map fun _ => next, line)
    | some ('-' :: c :: cs) =>
      if (c :: cs).all (· = 'p') then behindOptions output fuel { next with isUsual := true } line
      else return (none, line)
    | some _ => return (some spot, line)

/-- What a command line runs. -/
private structure Plan where
  /-- All fields, `command` included. -/
  fields : List Text
  spot : Spot
  builtin : Option Builtin
  /-- Whether the first field names a command with a special standing. -/
  isSpecial : Bool

/-- The command of the shell at a spot, if no function stands in front of it. -/
private def builtinAt (spot : Spot) (line : Line) : Run (Option Builtin) := do
  let name := line.fields.getD spot.place []
  let s ← get
  let isFunction := !spot.noFunctions && (s.functions.lookup (String.ofList name)).isSome
  return if isFunction then none else Builtin.ofText? name

/-- Finds out what is run. -/
private def resolve (output : Output) (isSpecial : Option Bool) :
    (fuel : Nat) → Spot → Line → Run (Plan × Line)
  | 0, _, _ => throw .exhausted
  | fuel + 1, spot, line => do
    let builtin ← builtinAt spot line
    let special := isSpecial.getD (builtin.any Builtin.isSpecial)
    if builtin = some .command then
      let (next, line) ← behindOptions output patience { spot with place := spot.place + 1 } line
      match next with
      | some next => resolve output (some special) fuel { next with noFunctions := true } line
      | none =>
        let spot : Spot := { spot with noFunctions := false }
        return (⟨line.fields, spot, builtin, special⟩, line)
    else return (⟨line.fields, spot, builtin, special⟩, line)

/-- Expands the words of a command and finds out what it runs. -/
private def planOf (e : Evaluator) (words : List Word) : Run Plan := do
  let line ← fill e.output words
  let start : Spot := ⟨0, false, false⟩
  if line.fields.isEmpty then return ⟨[], start, none, false⟩
  let (plan, line) ← resolve e.output none patience start line
  let assigns := plan.builtin.any Builtin.takesAssignments
  let more ← line.words.mapM fun word => do
    if assigns && word.isAssignment then return [← expandText e.output .assignment word]
    else expandFields e.output word
  return { plan with fields := line.fields ++ more.flatten }

namespace Plan

private def args (plan : Plan) : List Text := plan.fields.drop plan.spot.place

/-- Whether variables that are assigned belong to the command alone. -/
private def isLocal (plan : Plan) : Bool := !plan.fields.isEmpty && !plan.isSpecial

private def isExec (plan : Plan) : Bool := plan.builtin = some .exec

end Plan

/-! ### Assignments and traces -/

/-- Makes the assignments of a command; gives them as they were expanded. -/
private def makeAssignments (e : Evaluator) (plan : Plan) (assignments : List Word) :
    Run (List Text) :=
  assignments.mapM fun word => do
    let text ← expandText e.output .assignment word
    let name := text.takeWhile (· ≠ '=')
    let value := some (text.drop (name.length + 1))
    if plan.isLocal then makeLocal name value true
    else setNamed name value (plan.isExec && 1 < plan.args.length) false
    return text

/-- The value of a variable with the expansions in it, or as it is if they fail. -/
def expandPrompt (output : Output) (name : String) : Run Text := do
  let s ← get
  let raw := (s.value? name).getD []
  let reader := Reader.ofSource (Source.ofText raw) s.aliases s.documents
  let reader := if s.isReadOut then reader.atEnd else reader
  let (word, reader) := reader.text
  set { s with documents := reader.documents, isReadOut := reader.isAtEnd }
  let expanded : Run Text :=
    match word with
    | .ok word => expandText output .quoted word
    | .error fault => failSyntax fault
  tryCatch expanded fun stop => if stop = .failed then pure raw else throw stop

private def spaced : List Text → Text
  | [] => []
  | [word] => word
  | word :: words => word ++ ' ' :: spaced words

/-- Shows a command if commands are traced. -/
private def trace (e : Evaluator) (before : Descriptors) (words : List Text) : Run Unit := do
  let s ← get
  if s.isOn .xtrace && !s.isTracing then
    set { s with isTracing := true }
    let start ← expandPrompt e.output "PS4"
    modify fun s => { s with isTracing := false }
    discard (act (before.write 2 (Text.bytes (start ++ spaced words ++ ['\n']))))

/-! ### Running -/

/-- Runs a command of the shell. -/
private def runBuiltin (b : Builtin) (call : Call) (isSpecial : Bool) : Run Nat := do
  let outer := (← get).commandName
  modify fun s => { s with commandName := some call.name }
  let stop ← attempt do
    let code ← b.run call
    if ← flush then setStatus code
    else
      warn ((← get).commandName.getD [] ++ ": I/O error".toList)
      setStatus (code ||| 1)
  modify fun s => { s with commandName := outer }
  match stop with
  | none => pure ()
  | some stop => if stop ≠ .failed || isSpecial then throw stop
  return (← get).status

/-- Runs a function. -/
private def runFunction (e : Evaluator) (body : Command) (args : List Text) (flags : Flags) :
    Run Nat := do
  let s ← get
  set { s with loops := 0, args, cursor := ⟨1, none⟩ }
  let stop ← attempt (discard (e.command body flags.inside))
  modify fun after =>
    { after with
      loops := s.loops
      args := s.args
      cursor := s.cursor
      skip := if after.skip matches .return _ then .none else after.skip }
  if let some stop := stop then throw stop
  return (← get).status

/-- Runs a program, or what else has come to be found in its place. -/
private def runFound (e : Evaluator) (plan : Plan) (name : Text) (args : List Text)
    (flags : Flags) : Run Nat := do
  let s ← get
  let own := { s.lookup with noFunctions := plan.spot.noFunctions }
  let look : Lookup :=
    if plan.spot.isUsual then { own with path := Session.usualPath, isOwnPath := false } else own
  let (found, s) := s.find look name
  set s
  match found with
  | .nothing error =>
    warn (name ++ ": ".toList ++ (reasonOf "not found" error).toList)
    setStatus 127
    return 127
  | .program place =>
    if flags.mayEnd && !s.hasTraps then become look place name args
    else launch look place name args
  | .builtin b => runBuiltin b ⟨e, flags, name, args⟩ plan.isSpecial
  | .function body => runFunction e body args flags

private def runPlan (e : Evaluator) (plan : Plan) (flags : Flags) : Run Nat := do
  match plan.args, plan.builtin with
  | [], _ =>
    discard flush
    let code := (← get).outputStatus
    setStatus code
    return code
  | name :: args, some b => runBuiltin b ⟨e, flags, name, args⟩ plan.isSpecial
  | name :: args, none => runFound e plan name args flags

/-- Runs a simple command. -/
def runSimple (e : Evaluator) (line : Nat) (assignments words : List Word)
    (redirections : List Redirection) (flags : Flags) : Run Nat := do
  atLine line
  modify fun s => { s with outputStatus := 0 }
  let plan ← planOf e words
  let depth := (← get).locals.length
  if plan.isLocal then modify fun s => { s with locals := [] :: s.locals }
  let ready ← prepare e.output redirections
  let before := (← get).descriptors
  let status ← takingBack before ready plan.isExec do
    if ← redirectSafely e.output ready then
      let assigned ← makeAssignments e plan assignments
      trace e before (assigned ++ plan.fields)
      runPlan e plan flags
    else
      setStatus 2
      if plan.isSpecial then throw .failed
      return 2
  leaveLocals depth
  return status

/-- Looks a command up before the process that runs it is started, so that this is kept. -/
def lookUpEarly : Command → Run Unit
  | .simple _ _ (word :: _) _ => do
    if let some name := Word.plainText? word then
      if isName name then modify fun s => (s.find s.lookup name).2
  | _ => pure ()

end Handoff.Shell

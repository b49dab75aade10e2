import Handoff.Shell.Builtins.Call

/-! Commands that set variables, arguments and options. -/

namespace Handoff.Shell.Call

/-- The name and the value of an argument that may assign. -/
private def assignmentOf (arg : Text) : Text × Option Text :=
  let name := arg.takeWhile (· ≠ '=')
  (name, if name.length < arg.length then some (arg.drop (name.length + 1)) else none)

/-- Marks variables, which may be given values, or lists those that are marked. -/
def mark (call : Call) (exported readonly : Bool) : Run Nat := do
  let (options, args) ← call.options "p"
  if !options.isEmpty || args.isEmpty then
    let p (b : Binding) : Bool := exported && b.exported || readonly && b.readonly
    put ((← get).bindings.listing (String.ofList call.name) p)
  else
    args.forM fun arg => do
      let (name, value) := assignmentOf arg
      let label := String.ofList name
      if value.isNone && ((← get).bindings.lookup label).isSome then
        modify fun s => { s with bindings := s.bindings.mark label exported readonly }
      else setNamed name value exported readonly
  return 0

/-- Has variables belong to the function that is being run. -/
def makeLocals (call : Call) : Run Nat := do
  if (← get).locals.isEmpty then failString "not in a function"
  call.args.forM fun arg => do
    let (name, value) := assignmentOf arg
    makeLocal name value false
  return 0

def unset (call : Call) : Run Nat := do
  let (options, args) ← call.options "vf"
  let functions := options.getLast?.any (·.1 = 'f')
  args.forM fun name => do
    if functions then
      let label := String.ofList name
      modify fun s => { s with functions := s.functions.filter (·.1 ≠ label) }
    else setNamed name none false false
  return 0

/-! ### Options and arguments -/

/-- Jobs can only be controlled from a terminal. -/
def refuseMonitor : Run Unit := do
  let s ← get
  if s.isOn .monitor && s.process = s.root then
    warnString "can't access tty; job control turned off"
    modify fun s => { s with switches := s.switches.filter (· ≠ .monitor) }

/-- Sets an option by its letter. -/
def setLetter (value : Bool) (c : Char) : Run Unit := do
  match Switch.ofLetter? c with
  | some switch => modify fun s => { s with switches := Switch.change s.switches switch value }
  | none => failWith ("Illegal option -".toList ++ [c])

/-- Sets an option by its name, or lists all. -/
def setNamedSwitch (value : Bool) : Option Text → Run Unit
  | none => do putString (Switch.listing (← get).switches !value)
  | some name => do
    match Switch.ofName? name with
    | some switch =>
      modify fun s =>
        { s with switches := (if value then [switch] else []) ++ s.switches.filter (· ≠ switch) }
    | none => failWith ("Illegal option -o ".toList ++ name)

/-- Reads the letters of an argument that sets options; gives the arguments that are left. -/
def setLetters (value : Bool) : Text → List Text → Run (List Text)
  | [], args => return args
  | 'o' :: cs, args => do
    setNamedSwitch value args.head?
    setLetters value cs (args.drop 1)
  | c :: cs, args => do
    setLetter value c
    setLetters value cs args

private def setArgs (args : List Text) : Run Unit := modify fun s =>
  { s with args, cursor := ⟨1, none⟩ }

private def setWithin : Nat → List Text → Run Unit
  | fuel + 1, arg :: args => do
    match arg with
    | ['-'] =>
      modify fun s =>
        { s with switches := s.switches.filter fun o => o ≠ .xtrace ∧ o ≠ .verbose }
      unless args.isEmpty do setArgs args
    | ['-', '-'] => setArgs args
    | '-' :: letters => setWithin fuel (← setLetters true letters args)
    | '+' :: letters => setWithin fuel (← setLetters false letters args)
    | _ => setArgs (arg :: args)
  | _, _ => pure ()

def changeSettings (call : Call) : Run Nat := do
  if call.args.isEmpty then put ((← get).bindings.listing "" fun b => b.value.isSome)
  else
    setWithin (call.args.length + 1) call.args
    refuseMonitor
  return 0

def shift (call : Call) : Run Nat := do
  let n ←
    match call.args with
    | [] => pure 1
    | arg :: _ => countOf arg
  let args := (← get).args
  if args.length < n then failString "can't shift that many"
  setArgs (args.drop n)
  return 0

/-! ### Options of scripts -/

/-- What is left of the argument that letters are taken from, and the arguments behind it. -/
private def lettersAt (args : List Text) (cursor : OptionCursor) : Text :=
  match cursor.offset with
  | some n => if cursor.index ≤ 1 then [] else (args.getD (cursor.index - 2) []).drop n
  | none => []

/-- Whether an option is known, and if so, whether it takes a value. -/
private def known? : Text → Char → Option Bool
  | [], _ => none
  | d :: ':' :: rest, c => if c = d then some true else known? rest c
  | d :: rest, c => if c = d then some false else known? rest c

private def setOptionVariables (target : Text) (found : Char) (value : Option Text)
    (cursor : OptionCursor) (code : Nat) : Run Nat := do
  setBinding "OPTARG" value false false
  finish target found cursor code
where
  finish (target : Text) (found : Char) (cursor : OptionCursor) (code : Nat) : Run Nat := do
    setBinding "OPTIND" (some (toString cursor.index).toList) false false
    setNamed target (some [found]) false false
    modify fun s => { s with cursor }
    return code

/-- Takes a letter, with what is left of its argument. -/
private def takeLetter (options target : Text) (args : List Text) (index : Nat) (c : Char)
    (rest : Text) : Run Nat := do
  let isQuiet := options.head? = some ':'
  let offset := if rest = [] then none else some ((args.getD (index - 2) []).length - rest.length)
  let finish := setOptionVariables target
  match known? options c with
  | none =>
    if isQuiet then finish '?' (some [c]) ⟨index, offset⟩ 0
    else
      tell 2 ("Illegal option -".toList ++ [c, '\n'])
      finish '?' none ⟨index, offset⟩ 0
  | some false => finish c (some []) ⟨index, offset⟩ 0
  | some true =>
    match rest, args[index - 1]? with
    | [], none =>
      if isQuiet then finish ':' (some [c]) ⟨index, none⟩ 0
      else
        tell 2 ("No arg for -".toList ++ c :: " option\n".toList)
        finish '?' none ⟨index, none⟩ 0
    | [], some value => finish c (some value) ⟨index + 1, none⟩ 0
    | rest, _ => finish c (some rest) ⟨index, none⟩ 0

/-- Gives a variable the next option among some arguments. -/
def getopts (call : Call) : Run Nat := do
  match ← call.operands with
  | options :: target :: given =>
    let s ← get
    let args := if given.isEmpty then s.args else given
    let cursor := if args.length + 1 < s.cursor.index then ⟨1, none⟩ else s.cursor
    match lettersAt args cursor with
    | c :: rest => takeLetter options target args cursor.index c rest
    | [] =>
      let atEnd (index : Nat) : Run Nat :=
        setOptionVariables.finish target '?' ⟨index, none⟩ 1
      match args[cursor.index - 1]? with
      | some ['-', '-'] => atEnd (cursor.index + 1)
      | some ('-' :: c :: rest) =>
        takeLetter options target args (cursor.index + 1) c rest
      | _ => atEnd cursor.index
  | _ => failString "Usage: getopts optstring var [arg...]"

/-! ### Reading -/

/-- The first line of some bytes as spans: what a backslash protects stays together. Also gives
how many bytes were taken and whether the line was ended. -/
private def lineSpans (raw : Bool) : (count : Nat) → (run : List Glyph) → List Span → Text →
    List Span × Nat × Bool
  | count, run, spans, [] => ((.split run.reverse :: spans).reverse, count, false)
  | count, run, spans, c :: cs =>
    if c = '\x00' then lineSpans raw (count + 1) run spans cs
    else if c = '\n' then ((.split run.reverse :: spans).reverse, count + 1, true)
    else if c = '\\' ∧ ¬raw then
      let spans := .split run.reverse :: spans
      match cs with
      | [] => (spans.reverse, count + 1, false)
      | '\n' :: cs => lineSpans raw (count + 2) [] spans cs
      | '\x00' :: cs => lineSpans raw (count + 2) [] spans cs
      | d :: cs => lineSpans raw (count + 2) [] (.fixed [.plain d] :: spans) cs
    else lineSpans raw (count + 1) (.plain c :: run) spans cs

/-- Gives variables the fields of a line; those that are left get nothing. -/
private def assignFields : List Text → List Text → Run Unit
  | [], _ => pure ()
  | name :: names, [] => do
    setNamed name (some []) false false
    assignFields names []
  | name :: names, field :: fields => do
    setNamed name (some field) false false
    assignFields names fields

def read (call : Call) : Run Nat := do
  let (options, names) ← call.options "p:r"
  if names.isEmpty then failString "arg count"
  let s ← get
  let text := ((← act (s.descriptors.pending 0)).toOption.getD []).octets
  let (spans, count, isEnded) := lineSpans (options.any (·.1 = 'r')) 0 [] [] text
  act (s.descriptors.skip 0 count)
  let fields := cutFields s.separators (some names.length) spans
  assignFields names (fields.map Glyph.textOf)
  return if isEnded then 0 else 1

end Handoff.Shell.Call

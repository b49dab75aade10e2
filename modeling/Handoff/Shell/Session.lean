import Handoff.Host.Image
import Handoff.Number.Whole
import Handoff.Shell.Binding
import Handoff.Shell.Commands
import Handoff.Shell.Switch

/-!
A running shell.

`Session` is all that a shell knows, together with the state that it shares with other processes.
What a shell does is a `Run`, which may be brought to a `Stop`. Leaving loops, functions and files
is no stop: `Skip` says what is still to be passed over.
-/

namespace Handoff.Shell

open Handoff.Host

/-- Starts a tool as a process that has its number already. -/
abbrev Starter := Image → Context → Act Status

/-- What is passed over until the commands around have been left. -/
inductive Skip where
  | none
  /-- The loop is left. -/
  | leave
  /-- The rest of a round is passed over. -/
  | again
  /-- The function or file is left; its exit code was given, or it is the last one there was. -/
  | «return» (given : Bool)
  deriving DecidableEq, Repr

/-- What a variable or the options were before they became those of a function. -/
inductive Saved where
  | binding (name : String) (before : Option Binding)
  | switches (before : List Switch)

/-- What has become of a process in the background. -/
inductive JobState where
  /-- It runs when it is waited for. -/
  | waiting (run : Act Status)
  /-- A signal has ended it, which has not been noticed. -/
  | killed (signal : Signal)
  /-- It has ended, and perhaps been waited for. -/
  | finished (status : Status) (isKnown : Bool)

structure Job where
  number : Nat
  /-- Its process, which is the last one of a pipeline. -/
  process : Nat
  state : JobState

/-- How far the options among the arguments have been gone through. -/
structure OptionCursor where
  /-- The argument that comes next, counted from 1. -/
  index : Nat
  /-- How many letters of the argument in front of it have been taken. -/
  offset : Option Nat
  deriving DecidableEq, Repr

structure Session where
  machine : Machine
  starter : Starter
  process : Nat
  parent : Nat
  /-- The process that the shell began as, before any part of it was run apart. -/
  root : Nat
  descriptors : Descriptors
  folder : Location
  /-- The signals that do nothing. -/
  ignored : List Nat
  /-- The signals that did nothing from the start, which stays so. -/
  deaf : List Nat
  bindings : Bindings
  functions : List (String × Command)
  aliases : List (String × Text)
  /-- The places in the search list where commands have been found. -/
  hashed : List (String × Nat)
  switches : List Switch
  name : Text
  args : List Text
  cursor : OptionCursor
  /-- The exit code of the last command. -/
  status : Nat
  /-- The exit code of the last command whose output was taken as text. -/
  outputStatus : Nat
  /-- The exit code that the shell goes back to when a trap has been run. -/
  savedStatus : Option Nat
  /-- The line that messages name. -/
  line : Nat
  /-- The line that reading has come to. -/
  readLine : Nat
  /-- Whether reading has come to the end of the script. -/
  isReadOut : Bool
  /-- The command of the shell that is being run. -/
  commandName : Option Text
  skip : Skip
  /-- How many loops are still to be left. -/
  skipCount : Nat
  /-- How many loops are being run. -/
  loops : Nat
  /-- What is run for signals, and for 0 at the end. -/
  traps : List (Nat × Text)
  /-- Signals that have come and whose traps have not been run. -/
  pending : List Nat
  /-- The variables of the functions that are being run, innermost first. -/
  locals : List (List Saved)
  documents : Array Word
  /-- The processes in the background, the oldest first. -/
  jobs : List Job
  lastJob : Option Nat
  /-- Whether what a trace begins with is being expanded. -/
  isTracing : Bool
  /-- The folder as the shell names it. -/
  place : Text
  /-- What commands of the shell have put out and what has not been written. -/
  held : Text
  /-- The rights that new files are made without. -/
  mask : Nat
  /-- The limits that have been set, by the letters of their options. -/
  limits : List (Char × Option Nat)

/-- Why a shell does not go on. -/
inductive Stop where
  /-- An error that ends a script. -/
  | failed
  /-- The shell was told to end. -/
  | exited
  /-- There is nothing left to do. -/
  | ended
  /-- The process goes on as another program, which ends like this. -/
  | became (status : Status)
  | killed (signal : Signal)
  /-- A bound on what is run was reached. -/
  | exhausted
  deriving DecidableEq, Repr

abbrev Run := ExceptT Stop (StateM Session)

/-- Acts on the state that the shell shares with other processes. -/
def act {α : Type} (action : Act α) : Run α := do
  let s ← get
  let (a, machine) := action s.machine
  set { s with machine }
  return a

/-- The bytes of a text. -/
abbrev Text.bytes (text : Text) : Bytes := Bytes.ofOctets text

namespace Session

def isOn (s : Session) (switch : Switch) : Bool := s.switches.contains switch

/-- What the shell hands on to a program. -/
def context (s : Session) : Context :=
  ⟨s.descriptors, s.folder, s.bindings.environment, s.ignored, s.mask, s.process, s.parent⟩

/-- The value of a variable. -/
def value? (s : Session) (name : String) : Option Text := s.bindings.value? name

/-- The characters that part fields unless others are chosen. -/
def usualSeparators : Text := [' ', '\t', '\n']

def separators (s : Session) : Text := (s.value? "IFS").getD usualSeparators

/-- The folders that programs are searched for in unless others are chosen. -/
def usualPath : Text :=
  "/usr/local/sbin:/usr/local/bin:/usr/sbin:/usr/bin:/sbin:/bin".toList

def path (s : Session) : Text := (s.value? "PATH").getD []

def trap? (s : Session) (number : Nat) : Option Text := s.traps.lookup number

/-- Whether any trap would run commands. -/
def hasTraps (s : Session) : Bool := s.traps.any fun (_, action) => action ≠ []

end Session

def setStatus (code : Nat) : Run Unit := modify fun s => { s with status := code }

/-! ### Messages -/

/-- Writes to a descriptor; what cannot be written is lost. -/
def tell (fd : Nat) (text : Text) : Run Unit := do
  let s ← get
  discard (act (s.descriptors.write fd text.bytes))

/-- A message after the shell's name, the line and the command. -/
def Session.message (s : Session) (text : Text) : Text :=
  let command :=
    match s.commandName with
    | some name => name ++ [':', ' ']
    | none => []
  s.name ++ [':', ' '] ++ (toString s.line).toList ++ [':', ' '] ++ command ++ text ++
    ['\n']

/-- Writes a message to the standard error. -/
def warn (text : Text) : Run Unit := do tell 2 ((← get).message text)

def warnString (text : String) : Run Unit := warn text.toList

/-- Ends what is being done with a message. -/
def failWith {α : Type} (text : Text) : Run α := do
  setStatus 2
  warn text
  throw .failed

def failString {α : Type} (text : String) : Run α := failWith text.toList

/-- Ends what is being done for something that cannot be understood. -/
def failSyntax {α : Type} (fault : SyntaxFault) : Run α := do
  modify fun s => { s with line := fault.line }
  failString ("Syntax error: " ++ fault.message)

/-- How the shell names an error with a path; `absent` is said where there is nothing. -/
def reasonOf (absent : String) (e : OsError) : String :=
  if e = .noEntry ∨ e = .notDirectory then absent else e.reason

/-! ### Numbers -/

/-- The number that a text stands for. A text without digits counts as zero if no base is given;
only blanks may follow. -/
def wholeNumber? (base : Nat) (text : Text) : Option Int :=
  let w := Number.Whole.scan base text
  let (n, isOut) := w.signed
  if isOut || !w.found && base ≠ 0 || !(w.rest.dropWhile Number.isBlank).isEmpty then none
  else some n

def illegalNumber (text : Text) : Text := "Illegal number: ".toList ++ text

/-- The largest number that commands of the shell take. -/
def maxNumber : Int := 2147483647

/-- A number that a command is given; it has no sign. -/
def countOf (text : Text) : Run Nat := do
  match wholeNumber? 10 text with
  | some n => if 0 ≤ n && n ≤ maxNumber then return n.toNat else failWith (illegalNumber text)
  | none => failWith (illegalNumber text)

/-! ### Variables -/

/-- Has the shell heed a value that a variable is about to get. -/
private def heed (name : String) (value : Option Text) : Run Unit := do
  match name with
  | "PATH" => modify fun s => { s with hashed := [] }
  | "OPTIND" =>
    let index ← countOf (value.getD [])
    modify fun s => { s with cursor := ⟨max index 1, none⟩ }
  | _ => pure ()

/-- Gives a variable a value or takes it away, and perhaps marks it. -/
def setBinding (name : String) (value : Option Text) (exported readonly : Bool) : Run Unit := do
  let s ← get
  let exported := exported || s.isOn .allexport
  match s.bindings.set? name value exported readonly with
  | some bindings =>
    heed name value
    modify fun s => { s with bindings }
  | none => failString (name ++ ": is read only")

/-- The same for a text that may not be a name. -/
def setNamed (name : Text) (value : Option Text) (exported readonly : Bool) : Run Unit := do
  if isName name then setBinding (String.ofList name) value exported readonly
  else failWith (name.takeWhile (· ≠ '=') ++ ": bad variable name".toList)

def assign (name : String) (value : Text) : Run Unit := setBinding name (some value) false false

/-- Has a variable belong to the function that is being run. -/
def makeLocal (name : Text) (value : Option Text) (exported : Bool) : Run Unit := do
  let s ← get
  let record (saved : Saved) : Run Unit := modify fun s =>
    match s.locals with
    | [] => s
    | frame :: frames => { s with locals := (saved :: frame) :: frames }
  if name = ['-'] then
    record (.switches s.switches)
  else
    let label := String.ofList name
    let before := s.bindings.lookup label
    match before, value with
    | none, value =>
      setNamed name value exported false
      record (.binding label none)
    | some b, some value =>
      record (.binding label (some b))
      setBinding label (some value) exported false
    | some b, none => record (.binding label (some b))

private def restore : Saved → Run Unit
  | .switches before => modify fun s => { s with switches := before }
  | .binding name none => do
    modify fun s => { s with bindings := s.bindings.erase name }
    unless name = "OPTIND" do heed name none
  | .binding name (some b) => do
    modify fun s => { s with bindings := s.bindings.put name b }
    heed name b.value

/-- Gives variables back what they were before the innermost functions, down to a depth. -/
def leaveLocals (depth : Nat) : Run Unit := do
  let frames := (← get).locals
  let inner := frames.take (frames.length - depth)
  modify fun s => { s with locals := frames.drop inner.length }
  inner.flatten.forM restore

/-! ### Signals -/

/-- Has a signal reach the shell. -/
def receive (signal : Signal) : Run Unit := do
  let s ← get
  if signal.isImperative then throw (.killed signal)
  match s.trap? signal.number with
  | some [] => pure ()
  | some _ => set { s with pending := s.pending ++ [signal.number] }
  | none =>
    unless s.ignored.contains signal.number || signal.isIdle do throw (.killed signal)

/-- Has the signals reach the shell that other processes have sent it. -/
def receiveSent : Run Unit := do
  let s ← get
  let (mine, others) := s.machine.sent.partition (·.1 = s.process)
  if !mine.isEmpty then
    set { s with machine := { s.machine with sent := others } }
    mine.forM fun (_, signal) => receive signal

/-! ### Repetition -/

/-- How often one thing is repeated before it is taken to go on forever. -/
def patience : Nat := 1000000000

/-- Repeats a step as long as it says so. -/
def repeatWhile (step : Run Bool) : Nat → Run Unit
  | 0 => throw .exhausted
  | fuel + 1 => do
    if ← step then repeatWhile step fuel

end Handoff.Shell

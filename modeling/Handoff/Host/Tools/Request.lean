import Handoff.Host.Machine
import Handoff.Host.Path
import Handoff.Host.Tools.Options

/-!
How a tool is called and how it answers.

A tool works as a `Work`: it may end early with an exit code. What it puts out is held back until
it complains or ends; a complaint makes the exit code 1.
-/

namespace Handoff.Host

/-- What a tool is run with. -/
structure Request where
  context : Context
  /-- The name it goes by. -/
  name : Bytes
  args : List Bytes

/-- How far a tool has come. -/
structure Progress where
  /-- What has been put out and not yet written. -/
  held : Bytes
  /-- Why output could not be written. -/
  fault : Option OsError
  /-- Whether anything was complained about. -/
  failed : Bool

/-- What a tool does; it may end with an exit code before its time. -/
abbrev Work := ExceptT UInt8 (StateT Progress Act)

namespace Request

private def onMachine {α : Type} (action : Act α) : Work α := liftM action

/-- Writes what has been held back. -/
def flush (r : Request) : Work Unit := do
  let progress ← get
  unless progress.held = [] do
    match ← onMachine (r.context.descriptors.write 1 progress.held) with
    | .ok () => set { progress with held := [] }
    | .error e => set { progress with held := [], fault := some (progress.fault.getD e) }

/-- Puts something out. -/
def put (_ : Request) (bytes : Bytes) : Work Unit := modify fun progress =>
  { progress with held := progress.held ++ bytes }

def putText (r : Request) (text : List Char) : Work Unit := r.put (Bytes.ofOctets text)

/-- Writes to the standard error, whatever is held back. -/
def tell (r : Request) (text : List Char) : Work Unit :=
  discard (onMachine (r.context.descriptors.write 2 (Bytes.ofOctets text)))

/-- Says something after the tool's name, without taking it for a failure. -/
def warn (r : Request) (text : List Char) : Work Unit := do
  r.flush
  r.tell (r.name.octets ++ ':' :: ' ' :: text ++ ['\n'])

/-- Complains about something. -/
def complain (r : Request) (text : List Char) : Work Unit := do
  r.warn text
  modify fun progress => { progress with failed := true }

/-- Complains about something the system has refused. -/
def complainOf (r : Request) (subject : List Char) (e : OsError) : Work Unit :=
  r.complain (subject ++ ':' :: ' ' :: e.reason.toList)

/-- Complains about something and ends. -/
def giveUp {α : Type} (r : Request) (text : List Char) : Work α := do
  r.complain text
  throw 1

/-- Ends after a complaint about the way the tool was called. -/
def misused {α : Type} (r : Request) (complaint : List Char) : Work α := do
  r.complain complaint
  r.tell ("Try '".toList ++ r.name.octets ++ " --help' for more information.\n".toList)
  throw 1

/-- The arguments, told apart by a table of options. -/
def arguments (r : Request) (table : OptionTable) : Arguments :=
  table.read (r.args.map Bytes.octets)

/-- What a path leads to for the tool. -/
def resolve (r : Request) (path : List Char) : Work (Except OsError Object) := do
  let m ← onMachine get
  return m.resolve r.context.folder (Bytes.ofOctets path)

/-- A file that is open for a tool. -/
inductive Reading where
  | input
  | opened (index : Nat)

/-- Opens a file for reading; a dash stands for the standard input. -/
def openFile (r : Request) (path : List Char) : Work (Except OsError Reading) := do
  if path = ['-'] then return .ok .input
  return (← onMachine (openPath r.context .read (Bytes.ofOctets path))).map .opened

private def descriptorsOf (r : Request) : Reading → Descriptors
  | .input => r.context.descriptors
  | .opened index => [(0, index)]

/-- Reads all that is left of a file. -/
def readAll (r : Request) (reading : Reading) : Work (Except OsError Bytes) :=
  onMachine ((r.descriptorsOf reading).readAll 0)

/-- What is left of a file, which is not read. -/
def pending (r : Request) (reading : Reading) : Work (Except OsError Bytes) :=
  onMachine ((r.descriptorsOf reading).pending 0)

/-- Goes past some bytes of the standard input. -/
def skipInput (r : Request) (count : Nat) : Work Unit :=
  onMachine (r.context.descriptors.skip 0 count)

/-- The opening behind a file. -/
def openingOf (r : Request) (reading : Reading) : Work (Option Opening) := do
  return (← onMachine ((r.descriptorsOf reading).find? 0)).map (·.2)

def outputOpening (r : Request) : Work (Option Opening) := do
  return (← onMachine (r.context.descriptors.find? 1)).map (·.2)

/-- The plain file that an opening leads to, by its node. -/
def plainFile? (_ : Request) (opening : Option Opening) : Work (Option (Nat × Node)) := do
  let m ← onMachine get
  return do
    let .node index := (← opening).target | none
    if (m.node index).isQueue then none else some (index, m.node index)

/-- What is said of output that could not be written. -/
private def writeFault (early final : Option OsError) : Option String :=
  match early, final with
  | _, some e => some ("write error: " ++ e.reason)
  | some .badDescriptor, none => some ("write error: " ++ OsError.badDescriptor.reason)
  | some _, none => some "write error"
  | none, none => none

private def conclude (r : Request) : Work Unit := do
  let early := (← get).fault
  modify fun progress => { progress with fault := none }
  r.flush
  if let some fault := writeFault early (← get).fault then r.complain fault.toList

/-- Runs a tool to its end, which gives its exit code. -/
def work (r : Request) (tool : Work Unit) : Act UInt8 := do
  let (ended, progress) ← tool.run.run ⟨[], none, false⟩
  let (_, closing) ← (r.conclude).run.run { progress with failed := false }
  if closing.failed then return 1
  match ended with
  | .error code => return code
  | .ok () => return if progress.failed then 1 else 0

end Request

end Handoff.Host

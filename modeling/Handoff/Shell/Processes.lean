import Handoff.Shell.Builtins.Table

/-!
Parts of a shell that run apart.

A part runs as a process of its own: it has a copy of the shell, and what it changes there is lost
when it ends. Since processes run one after the other, one that is in the background runs when it
is waited for, or after the shell that it belongs to.
-/

namespace Handoff.Shell

open Handoff.Host

/-! ### Traps -/

/-- Runs the trap of one signal, unless something is being left. -/
private def runTrap (e : Evaluator) (status : Nat) (number : Nat) : Run Unit := do
  let s ← get
  if s.skip ≠ .none then return
  set { s with pending := s.pending.filter (· ≠ number) }
  if let some action := s.trap? number then
    discard (e.script .text (Source.ofText action) .none)
    if (← get).skip ≠ .return true then setStatus status

/-- Runs the traps of the signals that have come. -/
def runTraps (e : Evaluator) : Run Unit := do
  receiveSent
  let s ← get
  if s.pending.isEmpty then return
  let status := s.savedStatus.getD s.status
  set { s with savedStatus := some status }
  ((List.range (Signal.last + 1)).filter s.pending.contains).forM (runTrap e status)
  modify fun after => { after with savedStatus := s.savedStatus }

/-! ### The end of a process -/

/-- Puts a shell that is being ended into order. -/
private def settle (stop : Option Stop) : Run Unit := modify fun s =>
  let status :=
    match s.savedStatus with
    | some saved => if stop = some .exited ∨ s.skip = .return false then saved else s.status
    | none => s.status
  { s with status, savedStatus := none, skip := .none, loops := 0, isTracing := false }

/-- Runs something and gives what brought it to a stop, if anything did. -/
def attempt (body : Run Unit) : Run (Option Stop) :=
  tryCatch (body *> pure none) fun stop => pure (some stop)

/-- The status of a process that was stopped from outside or went on as another program. -/
private def Stop.status? : Stop → Option Status
  | .became status => some status
  | .killed signal => some (.signaled signal false)
  | .exhausted => some (.signaled ⟨9⟩ false)
  | .failed | .exited | .ended => none

/-- Ends a process: the trap for that is run, and the exit code stays what it was unless the trap
gives another. -/
private def finish (e : Evaluator) (stop : Option Stop) : Run Status := do
  if let some status := stop.bind Stop.status? then return status
  if stop.isSome then settle stop
  let s ← get
  let stop ←
    match s.trap? 0 with
    | some action =>
      set { s with
        savedStatus := some s.status, skip := .none, traps := s.traps.filter (·.1 ≠ 0) }
      attempt (discard (e.script .text (Source.ofText action) .none))
    | none =>
      set { s with savedStatus := some s.status }
      pure none
  if let some status := stop.bind Stop.status? then return status
  if stop.isNone then modify fun s => { s with skip := .return false }
  settle stop
  discard flush
  return .exited (UInt8.ofNat ((← get).status % 256))

/-- Runs the processes that were left in the background. -/
private def runJobs (jobs : List Job) : Act Unit :=
  jobs.forM fun job =>
    match job.state with
    | .waiting run => discard run
    | .killed _ | .finished .. => pure ()

/-- Runs something to the end of its process. -/
def asProcess (e : Evaluator) (body : Run Unit) (s : Session) : Act Status := fun machine =>
  let whole : Run Status := do finish e (← attempt body)
  let (result, s) := whole.run.run { s with machine }
  let status :=
    match result with
    | .ok status => status
    | .error stop => (Stop.status? stop).getD (.exited (UInt8.ofNat (s.status % 256)))
  let ((), machine) := runJobs s.jobs s.machine
  (status, machine)

/-! ### Starting processes -/

/-- A shell that has been set apart: traps that would run commands are gone. -/
def Session.apart (s : Session) : Session :=
  { s with jobs := [], pending := [], traps := s.traps.filter fun (_, action) => action = [] }

/-- A shell as it is in a new process. -/
private def Session.child (s : Session) (process : Nat) : Session :=
  { s.apart with process, parent := s.process }

/-- The numbers of new processes. -/
private def newProcesses (count : Nat) : Run (List Nat) := do
  discard takeJobNumber
  act do
    let m ← get
    let numbers := (List.range count).map (m.nextProcess + ·)
    set { m with
      nextProcess := m.nextProcess + count
      processes := numbers.reverse ++ m.processes }
    return numbers

private def newProcess : Run Nat := do return (← newProcesses 1).headD 0

private def endProcess (process : Nat) : Act Unit := modify fun m =>
  { m with
    processes := m.processes.filter (· ≠ process)
    sent := m.sent.filter (·.1 ≠ process) }

/-- The exit code of a process; says how it ended if that was a signal. -/
private def awaited (status : Status) : Run Nat := do
  report status
  return codeOf status

/-- Runs something apart and waits for it. -/
def apart (e : Evaluator) (body : Run Unit) : Run Nat := do
  let process ← newProcess
  let child := (← get).child process
  let status ← act (asProcess e body child)
  act (endProcess process)
  noticeKilled
  receiveSent
  awaited status

/-- A process in the background cannot be interrupted from outside. -/
private def Session.detached (s : Session) : Session :=
  { s with ignored := 2 :: 3 :: s.ignored, deaf := 2 :: 3 :: s.deaf }

/-- Has a new job run in the background. -/
private def addJob (process : Nat) (run : Act Status) : Run Unit := do
  let number ← takeJobNumber
  modify fun s =>
    { s with jobs := s.jobs ++ [⟨number, process, .waiting run⟩], lastJob := some process }

/-- An opening that nothing can be read from. -/
private def nullInput : Act Nat := newOpening ⟨.device .null, 0, true, false, false⟩

/-- Has something run in the background; it reads nothing. -/
def inBackground (e : Evaluator) (body : Run Unit) : Run Unit := do
  let process ← newProcess
  let null ← act nullInput
  let child := ((← get).child process).detached
  let child := { child with descriptors := child.descriptors.set 0 null }
  addJob process do
    let status ← asProcess e body child
    endProcess process
    return status

/-- Runs the stages of a pipeline one after the other, each on what the one before put out. -/
private def runStages (e : Evaluator) (flags : Flags) (s : Session) :
    (input : Option Nat) → List (Nat × Command) → Act (List Status)
  | _, [] => return []
  | input, (process, command) :: rest => do
    let queue ←
      if rest.isEmpty then pure none
      else pure (some (← newQueue []))
    let child := s.child process
    let descriptors :=
      match input with
      | some opening => child.descriptors.set 0 opening
      | none => child.descriptors
    let descriptors :=
      match queue with
      | some (_, writing) => descriptors.set 1 writing
      | none => descriptors
    let status ← asProcess e (discard (e.command command flags)) { child with descriptors }
    endProcess process
    return status :: (← runStages e flags s (queue.map (·.1)) rest)

/-- Runs a pipeline and waits for it. -/
def runPipeline (e : Evaluator) (commands : List Command) (flags : Flags) : Run Nat := do
  let processes ← newProcesses commands.length
  let stages := processes.zip commands
  let statuses ← act (runStages e { flags with mayEnd := true } (← get) none stages)
  noticeKilled
  receiveSent
  let codes ← statuses.mapM awaited
  return codes.getLast?.getD 0

/-- Has a pipeline run in the background; its first stage reads nothing. -/
def runPipelineInBackground (e : Evaluator) (commands : List Command) (flags : Flags) :
    Run Unit := do
  let processes ← newProcesses commands.length
  let stages := processes.zip commands
  let null ← act nullInput
  let s := (← get).detached
  addJob (processes.getLast?.getD 0) do
    let statuses ← runStages e { flags with mayEnd := true } s (some null) stages
    return statuses.getLast?.getD (.exited 0)

/-- Starts a program and waits for it. -/
def launch (look : Lookup) (place : Option Nat) (name : Text) (args : List Text) : Run Nat := do
  let process ← newProcess
  let s ← get
  match s.image look place name.bytes (args.map Text.bytes) with
  | .ok image =>
    let status ← act (s.starter image { s.context with process, parent := s.process })
    act (endProcess process)
    noticeKilled
    receiveSent
    awaited status
  | .error e =>
    act (endProcess process)
    warn (name ++ ": ".toList ++ (reasonOf "not found" e).toList)
    return startFailureCode e

/-- Runs a command apart and gives what it puts out. -/
def takeOutput (e : Evaluator) (command : Command) : Run Bytes := do
  if command.isNothing then return []
  let (reading, writing) ← act (newQueue [])
  let code ← apart e do
    modify fun s => { s with descriptors := s.descriptors.set 1 writing }
    discard (e.command command { Flags.none with mayEnd := true })
  modify fun s => { s with outputStatus := code }
  let content ← act (Descriptors.readAll [(0, reading)] 0)
  return content.toOption.getD []

end Handoff.Shell

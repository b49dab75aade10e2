import Handoff.Shell.Builtins.Call
import Handoff.Shell.Signals

/-!
Commands about other processes: waiting for them, listing them and sending them signals.

Processes in the background are jobs, which have numbers. A job keeps its number until it has been
waited for and the number is wanted for another one.
-/

namespace Handoff.Shell

open Handoff.Host

/-! ### Jobs -/

/-- The exit code that a status is given in a shell. -/
def codeOf : Status → Nat
  | .exited code => code.toNat
  | .signaled signal _ => 128 + signal.number

/-- Says of a process that a signal ended it. -/
def report : Status → Run Unit
  | .exited _ => pure ()
  | .signaled signal _ =>
    if SignalName.isQuiet signal then pure ()
    else tell 2 ((SignalName.description signal).toList.take 32 ++ ['\n'])

private def setState (job : Job) (state : JobState) : Run Unit := modify fun s =>
  { s with jobs := s.jobs.map fun j => if j.number = job.number then { j with state } else j }

/-- Waits for a job; gives its status. -/
private def finishJob (job : Job) : Run Status := do
  let status ←
    match job.state with
    | .finished status _ => pure status
    | .killed signal => pure (.signaled signal false)
    | .waiting run => act run
  setState job (.finished status true)
  receiveSent
  return status

/-- Notices which jobs have been ended by signals. -/
def noticeKilled : Run Unit := modify fun s =>
  { s with jobs := s.jobs.map fun job =>
      match job.state with
      | .killed signal => { job with state := .finished (.signaled signal false) false }
      | _ => job }

/-- Whether a number can be given to another job. -/
private def isFree (jobs : List Job) (number : Nat) : Bool :=
  jobs.all fun job => job.number ≠ number || job.state matches .finished _ true

/-- Takes the smallest number that a new job can have. -/
def takeJobNumber : Run Nat := do
  let s ← get
  let number := ((List.range (s.jobs.length + 1)).map (· + 1)).find? (isFree s.jobs)
  let number := number.getD (s.jobs.length + 1)
  set { s with jobs := s.jobs.filter (·.number ≠ number) }
  return number

/-- The job that an argument names. -/
private def jobNamed (name : Text) : Run Job := do
  let jobs := (← get).jobs
  let found (job : Option Job) (complaint : Text) : Run Job :=
    match job with
    | some job => return job
    | none => failWith complaint
  match name with
  | ['%'] | ['%', '%'] | ['%', '+'] => found jobs.getLast? "No current job".toList
  | ['%', '-'] => found jobs.dropLast.getLast? "No previous job".toList
  | _ =>
    let number := if (name.drop 1).all Char.isDigit then wholeNumber? 10 (name.drop 1) else none
    let job := number.bind fun n => jobs.find? fun job => (job.number : Int) = n
    found job ("No such job: ".toList ++ name)

/-- What has become of a job, in words. -/
private def JobState.describe : JobState → String
  | .waiting _ => "Running"
  | .killed signal => SignalName.description signal
  | .finished (.exited code) _ => if code = 0 then "Done" else s!"Done({code})"
  | .finished (.signaled signal _) _ => SignalName.description signal

private def listingWidth : Nat := 33

namespace Call

private def listJob (option : Option Char) (job : Job) : Run Unit := do
  let jobs := (← get).jobs
  let isNumber (other : Option Job) : Bool := other.any (·.number = job.number)
  let mark :=
    if isNumber jobs.getLast? then "+" else if isNumber jobs.dropLast.getLast? then "-" else " "
  if option = some 'p' then putString (toString job.process ++ "\n")
  else
    let process := if option = some 'l' then toString job.process ++ " " else ""
    let line := s!"[{job.number}] " ++ mark ++ " " ++ process ++ job.state.describe
    putLine (line.toList ++ List.replicate (listingWidth - line.length) ' ')
    unless job.state matches .waiting _ do
      modify fun s => { s with jobs := s.jobs.filter (·.number ≠ job.number) }

def jobs (call : Call) : Run Nat := do
  let (options, names) ← call.options "lp"
  let option := options.getLast?.map (·.1)
  if names.isEmpty then (← get).jobs.reverse.forM (listJob option)
  else names.forM fun name => do listJob option (← jobNamed name)
  return 0

/-- The job of a process that is waited for. -/
private def jobFor (id : Text) : Run (Option Job) := do
  if id.head? = some '%' then return some (← jobNamed id)
  let process ← countOf id
  return (← get).jobs.find? (·.process = process)

/-- Waits for a process; gives its exit code, or another one if there is no such process. -/
private def waitFor (code : Nat) (id : Text) : Run Nat := do
  match ← jobFor id with
  | none => return code
  | some job =>
    let status ← finishJob job
    unless job.state matches .finished .. do report status
    return codeOf status

def wait (call : Call) : Run Nat := do
  match ← call.operands with
  | [] =>
    (← get).jobs.forM fun job => discard (finishJob job)
    return 0
  | ids =>
    ids.foldlM waitFor 127

/-! ### Signals -/

/-- Whether a signal ends a process in the background that has asked for nothing. -/
private def endsJob (signal : Signal) : Bool :=
  !signal.isIdle && signal.number ≠ 0 && signal.number ≠ 2 && signal.number ≠ 3

/-- Sends a signal to a process; says whether there is one. -/
private def send (process : Nat) (number : Nat) : Run Bool := do
  let s ← get
  let signal : Signal := ⟨number⟩
  if process = s.process || process = 0 then
    if number ≠ 0 then receive signal
    return true
  match s.jobs.find? (·.process = process) with
  | some job =>
    match job.state with
    | .waiting _ =>
      if endsJob signal then setState job (.killed signal)
      return true
    | .killed _ => return true
    | .finished .. => return false
  | none =>
    if s.machine.processes.contains process then
      if number ≠ 0 then
        set { s with machine := { s.machine with sent := s.machine.sent ++ [(process, signal)] } }
      return true
    return process = s.parent

private def killUsage {α : Type} : Run α := failString
  ("Usage: kill [-s sigspec | -signum | -sigspec] [pid | job]... or\n" ++ "kill -l [exitstatus]")

private def sendAll (number : Nat) (targets : List Text) : Run Nat := do
  let codes ← targets.mapM fun target => do
    let isSent ←
      if target.head? = some '%' then
        discard (jobNamed target)
        pure false
      else
        let process ← countOf (if target.head? = some '-' then target.drop 1 else target)
        send process number
    if isSent then return 0
    warnString "No such process\n"
    return 1
  return codes.foldl max 0

private def listSignals : List Text → Run Nat
  | [] => do
    putLine ['0']
    (SignalName.all.drop 1).forM fun name => putLine name.toList
    return 0
  | arg :: _ => do
    let n ← countOf arg
    let n := if 128 < n then n - 128 else n
    if 0 < n && n ≤ Signal.last then
      putLine (SignalName.name n).toList
      return 0
    failWith ("invalid signal number or exit status: ".toList ++ arg)

def kill (call : Call) : Run Nat := do
  match call.args with
  | [] => killUsage
  | first :: rest =>
    let named := if first.head? = some '-' then SignalName.ofText? 1 (first.drop 1) else none
    if let some number := named then
      if rest.isEmpty then killUsage else return ← sendAll number rest
    let (options, targets) ←
      if first.head? = some '-' then call.options "ls:" else pure ([], call.args)
    let numbers ← (options.filter (·.1 = 's')).mapM fun (_, name) => do
      match SignalName.ofText? 1 name with
      | some n => pure n
      | none => failWith ("invalid signal number or name: ".toList ++ name)
    let lists := options.any (·.1 = 'l')
    match lists, numbers.getLast? with
    | true, none => listSignals targets
    | true, some _ => if targets.isEmpty then listSignals targets else killUsage
    | false, number =>
      if targets.isEmpty then killUsage else sendAll (number.getD 15) targets

end Call

end Handoff.Shell

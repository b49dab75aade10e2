import Handoff.Facility
import Handoff.Fault
import Handoff.Log.Notice
import Handoff.Runner

/-!
The facility that starts an external runner.

A `Launcher` stands for the operating system: it starts a command line in some world and answers
once the runner has ended. A delegation logs what it is about to start, starts it at most once and
logs how it ended. What cannot be started is an error; a runner that was started never is one,
however it ended.
-/

namespace Handoff

/-- A runner that has ended, with what it wrote. -/
structure Completed where
  status : Status
  output : Bytes
  errors : Bytes
  deriving DecidableEq, Repr

/-- Starts a command line in a world and waits for it. -/
abbrev Launcher (ω : Type) := ω → CommandLine → ω × Except OsError Completed

/-- Why a runner could not be started. -/
inductive LaunchFault where
  /-- A part of the command line holds a NUL byte, which ends a string for the system. -/
  | nul
  | os (error : OsError)
  deriving DecidableEq, Repr

def LaunchFault.message : LaunchFault → String
  | .nul => "nul byte found in provided data"
  | .os error => error.message

structure DelegationFault where
  program : String
  cause : LaunchFault
  deriving DecidableEq, Repr

/-- The report of a fault. `visible` tells which characters beyond ASCII are shown. -/
def DelegationFault.reportIn (visible : Char → Bool) (fault : DelegationFault) : Report :=
  (Report.ofMessage fault.cause.message).within
    ("running " ++ Quoted.stringIn visible fault.program)

def DelegationFault.report (fault : DelegationFault) : Report := fault.reportIn Quoted.isVisible

/-- What a delegation gives off, in order. -/
inductive Emission where
  | notice (notice : Log.Notice)
  /-- What the runner wrote to its two streams. -/
  | written (output errors : Bytes)
  deriving DecidableEq, Repr

/-- The world of a launcher together with what has been given off in it. -/
structure Desk (ω : Type) where
  world : ω
  emissions : List Emission

namespace Desk

variable {ω : Type}

def emit (desk : Desk ω) (new : List Emission) : Desk ω :=
  { desk with emissions := desk.emissions ++ new }

/-- The notices that have been given off. -/
def notices (desk : Desk ω) : List Log.Notice :=
  desk.emissions.filterMap fun
    | .notice notice => some notice
    | .written .. => none

/-- What the runners wrote to their standard output. -/
def output (desk : Desk ω) : Bytes :=
  desk.emissions.flatMap fun
    | .notice _ => []
    | .written output _ => output

/-- What the runners wrote to their standard error. -/
def errors (desk : Desk ω) : Bytes :=
  desk.emissions.flatMap fun
    | .notice _ => []
    | .written _ errors => errors

end Desk

/-- The notice of how a runner ended. -/
def Status.notice : Status → Log.Notice
  | .exited code => .finished code
  | .signaled signal coreDumped => .terminated signal coreDumped

/-- Starts the runner for some arguments. -/
def delegate {ω : Type} (launch : Launcher ω) (runner : Runner) :
    Facility (Desk ω) DelegationFault := fun desk args =>
  let command := runner.commandLine args
  let desk := desk.emit [.notice (.delegating command)]
  if command.hasNul then (desk, .error ⟨runner.program, .nul⟩)
  else
    match launch desk.world command with
    | (world, .error error) => ({ desk with world }, .error ⟨runner.program, .os error⟩)
    | (world, .ok done) =>
      ({ desk with world }.emit [.written done.output done.errors, .notice done.status.notice],
        .ok done.status.code)

section

variable {ω : Type} {launch : Launcher ω} {runner : Runner} {desk : Desk ω} {args : List Bytes}

/-- Nothing is started if a part of the command line holds a NUL byte. -/
theorem delegate_of_hasNul (h : (runner.commandLine args).hasNul = true) :
    delegate launch runner desk args =
      (desk.emit [.notice (.delegating (runner.commandLine args))],
        .error ⟨runner.program, .nul⟩) := by simp [delegate, h]

/-- A command line that the system refuses is an error, and nothing more is logged. -/
theorem delegate_of_refused {world : ω} {error : OsError}
    (h : (runner.commandLine args).hasNul = false)
    (hlaunch : launch desk.world (runner.commandLine args) = (world, .error error)) :
    delegate launch runner desk args =
      (⟨world, desk.emissions ++ [.notice (.delegating (runner.commandLine args))]⟩,
        .error ⟨runner.program, .os error⟩) := by simp [delegate, h, Desk.emit, hlaunch]

/-- A runner that was started is no error, however it ended. -/
theorem delegate_of_completed {world : ω} {done : Completed}
    (h : (runner.commandLine args).hasNul = false)
    (hlaunch : launch desk.world (runner.commandLine args) = (world, .ok done)) :
    delegate launch runner desk args =
      (⟨world, desk.emissions ++ [.notice (.delegating (runner.commandLine args)),
        .written done.output done.errors, .notice done.status.notice]⟩,
        .ok done.status.code) := by simp [delegate, h, Desk.emit, hlaunch]

end

end Handoff

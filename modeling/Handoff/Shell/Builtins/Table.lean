import Handoff.Shell.Builtins.Commands
import Handoff.Shell.Builtins.Flow
import Handoff.Shell.Builtins.Jobs
import Handoff.Shell.Builtins.Output
import Handoff.Shell.Builtins.Surroundings
import Handoff.Shell.Builtins.Test
import Handoff.Shell.Builtins.Variables

/-! What each command of the shell does. -/

namespace Handoff.Shell.Builtin

/-- Runs a command of the shell; gives its exit code. -/
def run (builtin : Builtin) (call : Call) : Run Nat :=
  match builtin with
  | colon | .true => return 0
  | .false => return 1
  | dot => call.source
  | bracket | test => call.test
  | .«alias» => call.«alias»
  | bg | fg => failString "No current job"
  | .break => call.leave Bool.false
  | .continue => call.leave Bool.true
  | cd | chdir => call.changeFolder
  | command => call.command
  | echo => call.echo
  | eval => call.eval
  | exec => call.exec
  | exit => call.exit
  | .export => call.mark Bool.true Bool.false
  | readonly => call.mark Bool.false Bool.true
  | getopts => call.getopts
  | hash => call.hash
  | jobs => call.jobs
  | kill => call.kill
  | .local => call.makeLocals
  | printf => call.printf
  | pwd => call.printFolder
  | read => call.read
  | .return => call.return
  | set => call.changeSettings
  | shift => call.shift
  | times => call.times
  | trap => call.trap
  | type => call.type
  | ulimit => call.ulimit
  | umask => call.umask
  | unalias => call.unalias
  | unset => call.unset
  | wait => call.wait

end Handoff.Shell.Builtin

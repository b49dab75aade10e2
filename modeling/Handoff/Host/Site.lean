import Handoff.Delegation
import Handoff.Environment
import Handoff.Host.Image
import Handoff.Host.Tools.Concatenate
import Handoff.Host.Tools.Count
import Handoff.Host.Tools.Format
import Handoff.Host.Tools.Remove
import Handoff.Shell.Invocation

/-!
A place to start runners in: a working directory, the tools of the system, an environment and what
there is to read.

`Site.launch` is a `Launcher`. Programs that start others do so one level deeper, and there is a
bound on how many levels there are.
-/

namespace Handoff.Host

open Handoff.Shell (Starter)

structure Site where
  files : Directory
  environment : Environment
  /-- What a runner finds on its standard input. -/
  input : Bytes
  deriving DecidableEq, Repr

/-- Runs a tool. `start` starts what it starts in turn. -/
def Image.runWith (start : Starter) (image : Image) (c : Context) : Act Status := do
  let r : Request := ⟨c, image.name, image.args⟩
  match image.tool with
  | .shell => Shell.invoke start c image.name image.args
  | .succeed => return .exited (← r.work (r.idle .succeed 0))
  | .fail => return .exited (← r.work (r.idle .fail 1))
  | .concatenate => return .exited (← r.work (Concatenate.run r))
  | .format => return .exited (← r.work (Format.run r))
  | .count => return .exited (← r.work (Count.run r))
  | .remove => return .exited (← r.work (Remove.run r))

/-- Starts tools, up to `depth` levels deep. -/
def starter : (depth : Nat) → Starter
  | 0, _, _ => return .signaled ⟨9⟩ false
  | depth + 1, image, c => image.runWith (starter depth) c

/-- How many tools may have started one another. -/
def maxLevels : Nat := 64

namespace Site

/-- The folders of the system that programs are searched for in. -/
def systemFolders : Bytes :=
  Bytes.ofString "/usr/local/sbin:/usr/local/bin:/usr/sbin:/usr/bin:/sbin:/bin"

def workplacePath : Bytes := workplace.flatMap fun name => slash :: Bytes.ofString name

/-- The variables that a runner is started with. -/
def bindings (site : Site) : List (Bytes × Bytes) :=
  let given := site.environment.bindings.map fun (name, value) => (Bytes.ofString name, value)
  if site.environment.isSet "PATH" then given
  else (Bytes.ofString "PATH", workplacePath ++ Image.colon :: systemFolders) :: given

def context (site : Site) : Context :=
  ⟨Machine.outside, workplace, site.bindings, [], 18, 1, 0⟩

/-- Starts a command line and waits for it. -/
def launch : Launcher Site := fun site command =>
  let machine := Machine.start site.files site.input
  let c := site.context
  match Image.search machine workplace ((c.value? "PATH").getD []) command.program command.args with
  | .error e => (site, .error e)
  | .ok image =>
    let (status, machine) := (starter maxLevels image c).run machine
    ({ site with files := machine.files }, .ok ⟨status, machine.output, machine.errors⟩)

end Site

end Handoff.Host

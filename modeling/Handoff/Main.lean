import Handoff.Host.Site
import Handoff.Log.Stamp
import Handoff.Program
import Std.Time.DateTime.Timestamp

/-!
The command line. It gathers what a run depends on, runs the program at a site of its own and
writes down what the run leaves behind.
-/

open Handoff

/-- The variables that make a difference to a run. -/
def watchedVariables : List String :=
  [Settings.runnerVariable, Settings.logVariable, "CARGO", "CLICOLOR_FORCE", "NO_COLOR", "CLICOLOR"]

def readEnvironment : IO Environment := do
  let found ← watchedVariables.filterMapM fun name => do
    return (← IO.getEnv name).map fun value => (name, Bytes.ofString value)
  return ⟨found⟩

def writeTo (stream : IO.FS.Stream) (bytes : Bytes) : IO Unit := do
  stream.write ⟨bytes.toArray⟩
  stream.flush

def main (args : List String) : IO UInt32 := do
  let environment ← readEnvironment
  let input ← (← IO.getStdin).readBinToEnd
  let site : Host.Site := ⟨.empty, environment, input.toList⟩
  let argv := Bytes.ofString "cargo-autorun" :: args.map Bytes.ofString
  let stdout ← IO.getStdout
  let stderr ← IO.getStderr
  let streams : Streams := ⟨.unbounded, ← stdout.isTty, ← stderr.isTty⟩
  let finish := (Call.mk environment argv streams site).run Host.Site.launch
  let now ← Std.Time.Timestamp.now
  let stamp := Log.stamp (now.toNanosecondsSinceUnixEpoch.toInt.toNat / 1000)
  writeTo stdout finish.output
  writeTo stderr (finish.errors.flatMap (Message.render stamp))
  return finish.exit.toUInt32

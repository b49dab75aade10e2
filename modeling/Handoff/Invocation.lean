import Handoff.Bytes

/-!
How the program was called, and which of its arguments are passed on.

The program name is never passed on. A tool that dispatches to subcommands calls `<tool>-<name>`
with `<name>` as the first argument; that one argument is dropped as well.
-/

namespace Handoff

/-- The name of the subcommand that the program serves. -/
def subcommand : String := "autorun"

structure Invocation where
  /-- The program name and the arguments after it. -/
  argv : List Bytes
  /-- Whether the program was called as a subcommand. -/
  asSubcommand : Bool
  deriving DecidableEq, Repr

/-- Drops the name of the subcommand if it stands first. -/
def dropSubcommand : List Bytes → List Bytes
  | [] => []
  | arg :: args => if arg = Bytes.ofString subcommand then args else arg :: args

/-- The arguments that are passed on. -/
def Invocation.forwarded (call : Invocation) : List Bytes :=
  if call.asSubcommand then dropSubcommand call.argv.tail else call.argv.tail

theorem Invocation.forwarded_direct (argv : List Bytes) :
    Invocation.forwarded ⟨argv, false⟩ = argv.tail := rfl

theorem Invocation.forwarded_subcommand (name : Bytes) (args : List Bytes) :
    Invocation.forwarded ⟨name :: Bytes.ofString subcommand :: args, true⟩ = args := by
  simp [forwarded, dropSubcommand]

end Handoff

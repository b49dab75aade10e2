import Handoff.Bytes

/-! Plain files by name, as a runner finds and leaves them in its working directory. -/

namespace Handoff.Host

structure File where
  content : Bytes
  executable : Bool
  deriving DecidableEq, Repr

/-- Files by name; no name occurs twice. -/
structure Directory where
  entries : List (Bytes × File)
  deriving DecidableEq, Repr

namespace Directory

def empty : Directory := ⟨[]⟩

end Directory

end Handoff.Host

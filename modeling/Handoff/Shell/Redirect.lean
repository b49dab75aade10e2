import Handoff.Shell.Expansion

/-!
Redirections.

First the words of all redirections are expanded, then one redirection after the other is made. A
file that cannot be opened ends what is being done; the caller says what becomes of descriptors
that have been changed by then.
-/

namespace Handoff.Shell

open Handoff.Host

/-- A redirection whose word has been expanded. -/
inductive Ready where
  | file (fd : Nat) (access : Access) (path : Text)
  /-- The source is none if the descriptor is closed. -/
  | copy (fd : Nat) (source : Option Nat)
  | document (fd : Nat) (word : Word)

namespace Ready

def fd : Ready → Nat
  | file fd .. | copy fd .. | document fd .. => fd

end Ready

/-- Expands the words of redirections. -/
def prepare (output : Output) (redirections : List Redirection) : Run (List Ready) :=
  redirections.mapM fun
    | .file fd access target => return .file fd access (← expandText output .text target)
    | .copy fd source => do
      match ← expandFields output source with
      | [] => failString "redir error"
      | ['-'] :: _ => return .copy fd none
      | [c] :: _ =>
        if c.isDigit then return .copy fd (some (c.toNat - '0'.toNat)) else badNumber
      | _ => badNumber
    | .document fd index => return .document fd ((← get).documents.getD index [])
where
  badNumber : Run Ready := do failSyntax ⟨(← get).readLine, "Bad fd number"⟩

private def cannot (verb : String) (path : Text) (reason : String) : Run Nat :=
  failWith ("cannot ".toList ++ verb.toList ++ ' ' :: path ++ ": ".toList ++ reason.toList)

/-- Opens a file; gives the opening. -/
private def openFor (access : Access) (path : Text) : Run Nat := do
  let s ← get
  let attempt (purpose : Purpose) (verb absent : String) : Run Nat := do
    match ← act (openPath s.context purpose path.bytes) with
    | .ok index => return index
    | .error e => cannot verb path (reasonOf absent e)
  let create (purpose : Purpose) : Run Nat := attempt purpose "create" "Directory nonexistent"
  match access with
  | .read => attempt .read "open" "No such file"
  | .update => create .update
  | .append => create .append
  | .force => create .write
  | .write =>
    if !s.isOn .noclobber then create .write
    else
      match s.machine.resolve s.folder path.bytes with
      | .error _ => create .create
      | .ok (.file _) | .ok (.tool _) | .ok .foreign =>
        cannot "create" path OsError.fileExists.reason
      | .ok _ => attempt .overwrite "open" "No such file"

private def setDescriptors (descriptors : Descriptors) : Run Unit := modify fun s =>
  { s with descriptors }

/-- Makes a redirection. -/
private def redirectOne (output : Output) : Ready → Run Unit
  | .file fd access path => do
    let index ← openFor access path
    setDescriptors ((← get).descriptors.set fd index)
  | .copy fd none => do setDescriptors ((← get).descriptors.close fd)
  | .copy fd (some source) => do
    if source ≠ fd then
      let s ← get
      match s.descriptors.opening? source with
      | some index => setDescriptors (s.descriptors.set fd index)
      | none => failString (toString source ++ ": " ++ OsError.badDescriptor.reason)
  | .document fd word => do
    let text ← expandText output .quoted word
    let (reading, _) ← act (newQueue text.bytes)
    setDescriptors ((← get).descriptors.set fd reading)

/-- Makes redirections. -/
def redirect (output : Output) (ready : List Ready) : Run Unit := ready.forM (redirectOne output)

/-- Makes redirections; says whether that went well. -/
def redirectSafely (output : Output) (ready : List Ready) : Run Bool := do
  match ← (tryCatch (redirect output ready *> pure none) fun stop => pure (some stop)) with
  | none => return true
  | some .failed => return false
  | some stop => throw stop

/-- Takes redirections back. -/
def restoreDescriptors (before : Descriptors) (ready : List Ready) : Run Unit := modify fun s =>
  { s with descriptors := ready.foldl (fun ds r => ds.restore before r.fd) s.descriptors }

end Handoff.Shell

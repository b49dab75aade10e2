import Handoff.Shell.BuiltinName
import Handoff.Shell.Session

/-!
Finding commands and becoming other programs.

A name is looked up among functions, then among the commands of the shell, then in the folders of
the search list; where it was found is kept. `Session.image` finds what starting a program comes
to: an executable file that names no interpreter is run by another shell if it looks like text.
-/

namespace Handoff.Shell

open Handoff.Host

/-- What a command name stands for. -/
inductive Found where
  /-- A program in a folder of the search list; none if the name is a path. -/
  | program (place : Option Nat)
  | builtin (builtin : Builtin)
  | function (body : Command)
  | nothing (error : OsError)

/-- What a look-up leaves out or adds. -/
structure Lookup where
  /-- Whether functions are left out. -/
  noFunctions : Bool
  /-- The folders that are searched. -/
  path : Text
  /-- Whether these are the shell's own, so that finds are kept. -/
  isOwnPath : Bool
  deriving DecidableEq, Repr

namespace Session

def lookup (s : Session) : Lookup := ⟨false, s.path, true⟩

/-- Whether a path leads to a file that can be started, in a search. -/
private def canStart (s : Session) (path : Bytes) : Except OsError Bool :=
  (s.machine.resolve s.folder path).map fun
    | .file n => (s.machine.node n).executable
    | .tool _ => true
    | _ => false

/-- Searches folders from a place on. The error is the one to report if nothing is found. -/
private def searchFrom (s : Session) (name : Bytes) (place : Nat) (error : OsError) :
    List Bytes → Except OsError Nat
  | [] => .error error
  | folder :: folders =>
    match s.canStart (Image.pathIn folder name) with
    | .ok true => .ok place
    | .ok false => searchFrom s name (place + 1) .accessDenied folders
    | .error e =>
      let isAbsent := e = .noEntry ∨ e = .notDirectory
      searchFrom s name (place + 1) (if isAbsent then error else e) folders

/-- What a name stands for, and the session that keeps it. -/
def find (s : Session) (look : Lookup) (name : Text) : Found × Session :=
  if name.contains '/' then (.program none, s)
  else
    let label := String.ofList name
    match if look.noFunctions then none else s.functions.lookup label, Builtin.ofText? name with
    | some function, _ => (.function function, s)
    | none, some builtin => (.builtin builtin, s)
    | none, none =>
      match if look.isOwnPath then s.hashed.lookup label else none with
      | some place => (.program (some place), s)
      | none =>
        match s.searchFrom name.bytes 0 .noEntry (Image.searchFolders look.path.bytes) with
        | .ok place =>
          let hashed := if look.isOwnPath then (label, place) :: s.hashed else s.hashed
          (.program (some place), { s with hashed })
        | .error e => (.nothing e, s)

/-- The path of a program that was found. -/
def pathOf (look : Lookup) (name : Text) (place : Option Nat) : Text :=
  match place with
  | none => name
  | some n =>
    let folder := (Image.searchFolders look.path.bytes).getD n []
    (Image.pathIn folder name.bytes).octets

end Session

/-! ### Becoming another program -/

/-- How much of a file is looked at to tell text from anything else. -/
def sampleSize : Nat := 128

/-- Whether a byte has no place in the first line of a text. -/
private def isOdd (b : UInt8) : Bool :=
  b ≤ 8 || 16 ≤ b && b ≤ 26 || 28 ≤ b && b ≤ 31 || b = 127

/-- Whether a file looks like anything but text. -/
def looksBinary (content : Bytes) : Bool :=
  ((content.take sampleSize).takeWhile (· ≠ Bytes.newline)).any isOdd

/-- The path of the shell that runs files without an interpreter. -/
def shellPath : Bytes := Bytes.ofString "/bin/sh"

namespace Session

/-- What starting a file comes to. -/
private def imageAt (s : Session) (name path : Bytes) (args : List Bytes) :
    Except OsError Image :=
  match Image.ofPath s.machine s.folder name path args with
  | .error .execFormat =>
    match s.machine.resolve s.folder path with
    | .ok (.file node) =>
      if looksBinary (s.machine.node node).content then .error .execFormat
      else .ok ⟨.shell, shellPath, path :: args⟩
    | _ => .error .execFormat
  | result => result

private def imageFrom (s : Session) (name : Bytes) (args : List Bytes) (error : OsError) :
    List Bytes → Except OsError Image
  | [] => .error error
  | folder :: folders =>
    match s.imageAt name (Image.pathIn folder name) args with
    | .ok image => .ok image
    | .error e =>
      let isAbsent := e = .noEntry ∨ e = .notDirectory
      imageFrom s name args (if isAbsent then error else e) folders

/-- What starting a command comes to; the folders in front of its place are left out. -/
def image (s : Session) (look : Lookup) (place : Option Nat) (name : Bytes) (args : List Bytes) :
    Except OsError Image :=
  if name.contains slash then s.imageAt name name args
  else
    s.imageFrom name args .noEntry ((Image.searchFolders look.path.bytes).drop (place.getD 0))

end Session

/-- The exit code for a program that could not be started. -/
def startFailureCode (e : OsError) : Nat :=
  if [OsError.noEntry, .notDirectory, .nameTooLong, .tooManyLevels].contains e then 127 else 126

/-- Has the process go on as another program. -/
def become {α : Type} (look : Lookup) (place : Option Nat) (name : Text) (args : List Text) :
    Run α := do
  let s ← get
  match s.image look place name.bytes (args.map Text.bytes) with
  | .ok image =>
    let status ← act (s.starter image s.context)
    throw (.became status)
  | .error e =>
    setStatus (startFailureCode e)
    warn (name ++ ": ".toList ++ (reasonOf "not found" e).toList)
    throw .ended

end Handoff.Shell

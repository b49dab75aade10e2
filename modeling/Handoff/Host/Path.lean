import Handoff.Host.Machine

/-!
File names and what they lead to.

A path is followed component by component, from the root or from the folder that a process is in.
Files are kept in the machine; besides there is a small fixed tree with the tools of the system.
-/

namespace Handoff.Host

/-- The tools of the system. -/
inductive Tool where
  | shell | succeed | fail | concatenate | format | count | remove
  deriving DecidableEq, Repr

namespace Tool

def name : Tool → String
  | shell => "sh"
  | succeed => "true"
  | fail => "false"
  | concatenate => "cat"
  | format => "printf"
  | count => "wc"
  | remove => "rm"

def all : List Tool := [shell, succeed, fail, concatenate, format, count, remove]

/-- The tool of a name; the shell has two names. -/
def ofName? (name : String) : Option Tool :=
  if name = "dash" then some shell else all.find? fun t => t.name = name

end Tool

/-- What a path leads to. -/
inductive Object where
  | folder (location : Location)
  | file (node : Nat)
  | tool (tool : Tool)
  | device (device : Device)
  /-- What a process has open under a number. -/
  | descriptor (fd : Nat)
  /-- A file of the system that is neither a tool nor writable. -/
  | foreign
  deriving DecidableEq, Repr

namespace Object

/-- The folders of the system. -/
def folders : List Location :=
  [[], ["boot"], ["dev"], ["etc"], ["home"], ["media"], ["mnt"], ["opt"], ["proc"], ["root"],
   ["run"], ["srv"], ["sys"], ["tmp"], ["usr"], ["var"], ["dev", "fd"], ["dev", "shm"],
   ["usr", "bin"], ["usr", "games"], ["usr", "include"], ["usr", "lib"], ["usr", "lib64"],
   ["usr", "local"], ["usr", "sbin"], ["usr", "share"], ["usr", "src"],
   ["usr", "local", "bin"], ["usr", "local", "etc"], ["usr", "local", "include"],
   ["usr", "local", "lib"], ["usr", "local", "sbin"], ["usr", "local", "share"],
   ["var", "cache"], ["var", "lib"], ["var", "log"], ["var", "tmp"], workplace]

/-- The folders of the root that are other names of folders below `usr`. -/
def aliases : List String := ["bin", "lib", "lib64", "sbin"]

/-- The folders in which files can be made. -/
def writable (folder : Location) : Bool :=
  [workplace, ["tmp"], ["var", "tmp"], ["dev", "shm"]].contains folder

/-- Files of the system that are no tools. -/
def foreignFiles : List Location :=
  ["fstab", "group", "hostname", "hosts", "os-release", "passwd", "profile", "resolv.conf",
   "shadow", "shells"].map fun name => ["etc", name]

def device? : String → Option Object
  | "null" => some (.device .null)
  | "zero" => some (.device .zero)
  | "full" => some (.device .full)
  | "random" | "urandom" => some (.device .random)
  | "tty" => some (.device .terminal)
  | "stdin" => some (.descriptor 0)
  | "stdout" => some (.descriptor 1)
  | "stderr" => some (.descriptor 2)
  | _ => none

/-- What a folder of the system holds under a name. -/
def child? (folder : Location) (name : String) : Option Object :=
  let inner := folder ++ [name]
  if folder = [] ∧ name ∈ aliases then some (.folder ["usr", name])
  else if inner ∈ folders then some (.folder inner)
  else if inner ∈ foreignFiles then some .foreign
  else if folder = ["dev"] then device? name
  else if folder = ["dev", "fd"] then name.toNat?.map .descriptor
  else if folder = ["usr", "bin"] then (Tool.ofName? name).map .tool
  else none

/-- The longest name that a folder can hold. -/
def maxName : Nat := 255

/-- A path of this length is refused. -/
def pathLimit : Nat := 4096

/-- What a folder holds under a name. -/
def entry (m : Machine) (folder : Location) (name : String) : Except OsError Object :=
  match m.entry? folder name with
  | some entry => .ok (.file entry.node)
  | none =>
    match child? folder name with
    | some object => .ok object
    | none => .error .noEntry

/-- Follows one component of a path; an empty one asks for a folder and stays there. -/
def step (m : Machine) (object : Object) (component : Bytes) : Except OsError Object :=
  match object with
  | .folder outer =>
    match component.label with
    | "" | "." => .ok object
    | ".." => .ok (.folder outer.dropLast)
    | name => if maxName < component.length then .error .nameTooLong else entry m outer name
  | _ => .error .notDirectory

/-- The names that a folder holds. -/
def names (m : Machine) (folder : Location) : List String :=
  (m.entries.filter (·.folder = folder)).map (·.name) ++
    (folders.filter fun f => f ≠ [] ∧ f.dropLast = folder).filterMap List.getLast? ++
    (if folder = [] then aliases else []) ++
    (if folder = ["usr", "bin"] then "dash" :: Tool.all.map Tool.name else []) ++
    (if folder = ["dev"] then
      ["full", "null", "random", "stderr", "stdin", "stdout", "tty", "urandom", "zero"] else []) ++
    (foreignFiles.filter (·.dropLast = folder)).filterMap List.getLast?

end Object

def slash : UInt8 := 0x2f

/-- The components of a path, between its slashes. -/
def components : Bytes → List Bytes
  | [] => [[]]
  | b :: bytes =>
    if b = slash then [] :: components bytes
    else
      match components bytes with
      | [] => [[b]]
      | component :: rest => (b :: component) :: rest

/-- Follows a path from a folder. -/
def Machine.resolve (m : Machine) (folder : Location) (path : Bytes) : Except OsError Object :=
  if path = [] then .error .noEntry
  else if Object.pathLimit ≤ path.length then .error .nameTooLong
  else
    let start : Object := .folder (if path.head? = some slash then [] else folder)
    (components path).foldlM (Object.step m) start

/-- The folder that a path names something in, and the name. -/
def Machine.resolveParent (m : Machine) (folder : Location) (path : Bytes) :
    Except OsError (Location × String) := do
  let name := ((components path).getLast?).getD []
  let above := path.take (path.length - name.length)
  match ← if above = [] then .ok (.folder folder) else m.resolve folder above with
  | .folder inner => return (inner, name.label)
  | _ => throw .notDirectory

/-! ### Opening files -/

/-- What an opening is for. -/
inductive Purpose where
  | read
  /-- Writes from the start of an emptied file. -/
  | write
  /-- Writes at the end. -/
  | append
  /-- Reads and writes, and leaves what is there. -/
  | update
  /-- Writes to a file that must be new. -/
  | create
  /-- Writes from the start of a file that stays as it is. -/
  | overwrite
  deriving DecidableEq, Repr

namespace Purpose

def reads (p : Purpose) : Bool := p = .read || p = .update

def writes (p : Purpose) : Bool := p ≠ .read

/-- Whether a file that is not there is made. -/
def makes (p : Purpose) : Bool := p ≠ .read && p ≠ .overwrite

end Purpose

/-- Opens what is behind a path. -/
def openPath (c : Context) (purpose : Purpose) (path : Bytes) : Act (Except OsError Nat) := do
  let m ← get
  let opening (target : Target) : Act (Except OsError Nat) := do
    return .ok (← newOpening ⟨target, 0, purpose.reads, purpose.writes, purpose = .append⟩)
  if path = [] then return .error .noEntry
  match m.resolve c.folder path with
  | .ok (.file node) =>
    if purpose = .create then return .error .fileExists
    if purpose = .write then setContent node []
    opening (.node node)
  | .ok (.device .terminal) => return .error .noDevice
  | .ok (.device device) => opening (.device device)
  | .ok (.tool _) | .ok .foreign => opening .foreign
  | .ok (.folder inner) =>
    if purpose.writes then return .error .isDirectory else opening (.folder inner)
  | .ok (.descriptor fd) =>
    match ← c.descriptors.find? fd with
    | none => return .error .noEntry
    | some (index, o) =>
      match o.target with
      | .node n =>
        if (m.node n).isQueue then return .ok index
        if purpose = .write then setContent n []
        opening o.target
      | target => opening target
  | .error .noEntry =>
    if !purpose.makes then return .error .noEntry
    match m.resolveParent c.folder path with
    | .ok (folder, name) =>
      if name = "" then return .error .isDirectory
      if !Object.writable folder then return .error .accessDenied
      let node ← newFile folder name
      opening (.node node)
    | .error e => return .error e
  | .error e => return .error e

end Handoff.Host

import Handoff.Fault
import Handoff.Host.Directory
import Handoff.Bytes.Octets
import Handoff.Status

/-!
The state that processes share.

Contents are kept in nodes, whether they have names or not: a file, what waits in a queue between
two processes, and the input and output of all of them are nodes alike. An opening is a way into a
node with a position of its own; processes that share an opening share the position. A process
knows openings by small numbers, its descriptors.
-/

namespace Handoff.Host

/-- The path of a folder, by its components from the root. -/
abbrev Location := List String

/-- The folder that runners are started in. -/
def workplace : Location := ["tmp", "handoff"]

structure Node where
  content : Bytes
  executable : Bool
  /-- Whether it is a queue between processes and no file. -/
  isQueue : Bool
  deriving DecidableEq, Repr

/-- A name that a node goes by. -/
structure Entry where
  folder : Location
  name : String
  node : Nat
  deriving DecidableEq, Repr

inductive Device where
  | null | zero | full | random
  /-- A terminal, which no process here has. -/
  | terminal
  deriving DecidableEq, Repr

/-- What an opening leads to. -/
inductive Target where
  | node (index : Nat)
  | device (device : Device)
  | folder (location : Location)
  /-- A file of the system, whose content is of no concern. -/
  | foreign
  deriving DecidableEq, Repr

structure Opening where
  target : Target
  position : Nat
  reads : Bool
  writes : Bool
  /-- Whether each write goes to the end. -/
  appends : Bool
  deriving DecidableEq, Repr

/-- The openings of a process by their numbers. -/
abbrev Descriptors := List (Nat × Nat)

structure Machine where
  entries : List Entry
  nodes : Array Node
  openings : Array Opening
  /-- The processes that have been started, apart from those that were waited for. -/
  processes : List Nat
  /-- Signals that a process has been sent and has not yet noticed. -/
  sent : List (Nat × Signal)
  /-- The number of the next process. -/
  nextProcess : Nat
  /-- How many more commands may be run by all shells together. -/
  budget : Nat
  deriving Repr

/-- An action on the shared state. -/
abbrev Act := StateM Machine

/-- What a process hands on to one that it starts. -/
structure Context where
  descriptors : Descriptors
  folder : Location
  /-- The variables. -/
  bindings : List (Bytes × Bytes)
  /-- The signals that do nothing. -/
  ignored : List Nat
  /-- The rights that new files are made without. -/
  mask : Nat
  process : Nat
  parent : Nat

namespace Context

/-- The value of a variable. -/
def value? (c : Context) (name : String) : Option Bytes := c.bindings.lookup (Bytes.ofString name)

end Context

namespace Machine

/-- How many commands are run before a machine is taken to run forever. -/
def patience : Nat := 4000000

/-- A machine before its first process, which has the number 1. Descriptors 0 to 2 of that process
are the openings 0 to 2. -/
def start (files : Directory) (input : Bytes) : Machine :=
  let named := files.entries.zipIdx 3
  { entries := named.map fun ((name, _), i) => ⟨workplace, name.label, i⟩
    nodes := #[⟨input, false, false⟩, ⟨[], false, true⟩, ⟨[], false, true⟩] ++
      (named.map fun ((_, file), _) => (⟨file.content, file.executable, false⟩ : Node)).toArray
    openings := #[⟨.node 0, 0, true, false, false⟩, ⟨.node 1, 0, false, true, true⟩,
      ⟨.node 2, 0, false, true, true⟩]
    processes := [1]
    sent := []
    nextProcess := 2
    budget := patience }

/-- The descriptors of the first process. -/
def outside : Descriptors := [(0, 0), (1, 1), (2, 2)]

def node (m : Machine) (index : Nat) : Node := m.nodes.getD index ⟨[], false, false⟩

/-- The files of the working directory. -/
def files (m : Machine) : Directory :=
  ⟨(m.entries.filter (·.folder = workplace)).map fun entry =>
    let node := m.node entry.node
    (Bytes.ofOctets entry.name.toList, ⟨node.content, node.executable⟩)⟩

/-- What was written to the standard output and to the standard error. -/
def output (m : Machine) : Bytes := (m.node 1).content

def errors (m : Machine) : Bytes := (m.node 2).content

def entry? (m : Machine) (folder : Location) (name : String) : Option Entry :=
  m.entries.find? fun entry => entry.folder = folder ∧ entry.name = name

end Machine

/-! ### Nodes and openings -/

/-- A new node, by its index. -/
def newNode (node : Node) : Act Nat := fun m =>
  (m.nodes.size, { m with nodes := m.nodes.push node })

/-- A new opening, by its index. -/
def newOpening (opening : Opening) : Act Nat := fun m =>
  (m.openings.size, { m with openings := m.openings.push opening })

def setContent (index : Nat) (content : Bytes) : Act Unit := modify fun m =>
  { m with nodes := m.nodes.modify index fun node => { node with content } }

/-- A new empty file under a name. -/
def newFile (folder : Location) (name : String) : Act Nat := do
  let node ← newNode ⟨[], false, false⟩
  modify fun m => { m with entries := m.entries ++ [⟨folder, name, node⟩] }
  return node

/-- Takes a name away; the node stays as long as there are ways into it. -/
def removeEntry (folder : Location) (name : String) : Act Unit := modify fun m =>
  { m with entries := m.entries.filter fun entry => ¬(entry.folder = folder ∧ entry.name = name) }

/-- The two ends of a new queue that holds some bytes: the one to read and the one to write. -/
def newQueue (content : Bytes) : Act (Nat × Nat) := do
  let node ← newNode ⟨content, false, true⟩
  let reading ← newOpening ⟨.node node, 0, true, false, false⟩
  let writing ← newOpening ⟨.node node, 0, false, true, true⟩
  return (reading, writing)

namespace Descriptors

def opening? (ds : Descriptors) (fd : Nat) : Option Nat := ds.lookup fd

/-- Has a number lead to an opening. -/
def set (ds : Descriptors) (fd opening : Nat) : Descriptors :=
  (fd, opening) :: ds.filter (·.1 ≠ fd)

def close (ds : Descriptors) (fd : Nat) : Descriptors := ds.filter (·.1 ≠ fd)

/-- Puts a number back to what it was among other descriptors. -/
def restore (ds before : Descriptors) (fd : Nat) : Descriptors :=
  match before.opening? fd with
  | some opening => ds.set fd opening
  | none => ds.close fd

/-- The opening behind a number. -/
def find? (ds : Descriptors) (fd : Nat) : Act (Option (Nat × Opening)) := do
  let m ← get
  return do
    let index ← ds.opening? fd
    return (index, ← m.openings[index]?)

private def advance (index position : Nat) : Act Unit := modify fun m =>
  { m with openings := m.openings.modify index fun opening => { opening with position } }

/-- The content at an opening with something else in place of what stands at a position. -/
private def overwrite (content : Bytes) (position : Nat) (bytes : Bytes) : Bytes :=
  content.take position ++ List.replicate (position - content.length) 0 ++ bytes ++
    content.drop (position + bytes.length)

/-- Writes some bytes, or says why they could not be written. -/
def write (ds : Descriptors) (fd : Nat) (bytes : Bytes) : Act (Except OsError Unit) := do
  match ← ds.find? fd with
  | none => return .error .badDescriptor
  | some (index, opening) =>
    if !opening.writes then return .error .badDescriptor
    match opening.target with
    | .device .full => return if bytes = [] then .ok () else .error .noSpace
    | .device _ | .foreign | .folder _ => return .ok ()
    | .node n =>
      let content := ((← get).node n).content
      if opening.appends then
        setContent n (content ++ bytes)
      else
        setContent n (overwrite content opening.position bytes)
        advance index (opening.position + bytes.length)
      return .ok ()

/-- All that is left to be read. -/
def pending (ds : Descriptors) (fd : Nat) : Act (Except OsError Bytes) := do
  match ← ds.find? fd with
  | none => return .error .badDescriptor
  | some (_, opening) =>
    if !opening.reads then return .error .badDescriptor
    match opening.target with
    | .device _ | .foreign => return .ok []
    | .folder _ => return .error .isDirectory
    | .node n => return .ok (((← get).node n).content.drop opening.position)

/-- Goes past some bytes that have been read. -/
def skip (ds : Descriptors) (fd count : Nat) : Act Unit := do
  if let some (index, opening) ← ds.find? fd then
    if opening.target matches .node _ then advance index (opening.position + count)

/-- Reads all there is. -/
def readAll (ds : Descriptors) (fd : Nat) : Act (Except OsError Bytes) := do
  match ← ds.pending fd with
  | .ok bytes =>
    ds.skip fd bytes.length
    return .ok bytes
  | .error e => return .error e

end Descriptors

end Handoff.Host

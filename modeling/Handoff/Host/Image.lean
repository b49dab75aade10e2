import Handoff.Host.Path

/-!
What starting a program comes to.

A file that names an interpreter on its first line is started by starting the interpreter, with
the file's path among its arguments; in the end there is always a tool to run. A name without a
slash is searched for in a list of folders. `Image.interpreter?` reads the first line,
`Image.search` tries the folders.
-/

namespace Handoff.Host

/-- A tool with the vector that it is run with: the name it goes by, then its arguments. -/
structure Image where
  tool : Tool
  name : Bytes
  args : List Bytes
  deriving DecidableEq, Repr

namespace Image

/-- How much of a file is looked at to find out how it is run. -/
def headSize : Nat := 256

private def isGap (b : UInt8) : Bool := b = 0x20 || b = 0x09

private def endsWord (b : UInt8) : Bool := isGap b || b = 0

private def trimEnd (bytes : Bytes) : Bytes := (bytes.reverse.dropWhile isGap).reverse

/-- The rest of the first line, if it can be told from the head of the file alone: either the line
ends within the head, or the name of the interpreter does. A short file has NUL bytes behind it. -/
def interpreterLine? (content : Bytes) : Option Bytes :=
  let head := content.take headSize ++ List.replicate (headSize - content.length) 0
  match head with
  | 0x23 :: 0x21 :: rest =>
    let text := rest.takeWhile (· ≠ 0)
    if text.contains Bytes.newline then some (trimEnd (text.takeWhile (· ≠ Bytes.newline)))
    else if ((rest.dropWhile isGap).dropWhile (!endsWord ·)) = [] then none
    else some (trimEnd (rest.take (headSize - 3)))
  | _ => none

/-- The interpreter that a file names on its first line, and the one argument that may follow. -/
def interpreter? (content : Bytes) : Option (Bytes × Option Bytes) := do
  let line := (← interpreterLine? content).dropWhile isGap
  if line = [] then none
  let path := line.takeWhile (!endsWord ·)
  let arg := ((line.drop path.length).dropWhile isGap).takeWhile (· ≠ 0)
  return (path, if arg = [] then none else some arg)

/-- How many interpreters may stand behind one another. -/
def maxInterpreters : Nat := 5

/-- Finds the tool behind a path. `depth` bounds how many interpreters are followed. -/
def ofPathWithin (depth : Nat) (m : Machine) (folder : Location) (name path : Bytes)
    (args : List Bytes) : Except OsError Image := do
  match ← if path = [] then .ok (.folder folder) else m.resolve folder path with
  | .tool tool => return ⟨tool, name, args⟩
  | .file index =>
    let node := m.node index
    if !node.executable then throw .accessDenied
    match interpreter? node.content, depth with
    | none, _ => throw .execFormat
    | some _, 0 => throw .tooManyLevels
    | some (interpreter, arg), depth + 1 =>
      ofPathWithin depth m folder interpreter interpreter (arg.toList ++ path :: args)
  | _ => throw .accessDenied

/-- Starts what a path leads to. -/
def ofPath (m : Machine) (folder : Location) (name path : Bytes) (args : List Bytes) :
    Except OsError Image :=
  if path = [] then .error .noEntry else ofPathWithin maxInterpreters m folder name path args

/-- The byte between the folders of a search. -/
def colon : UInt8 := 0x3a

/-- The folders of a search list; an empty one is the folder that the search is made in. -/
def searchFolders : Bytes → List Bytes
  | [] => [[]]
  | b :: bytes =>
    if b = colon then [] :: searchFolders bytes
    else
      match searchFolders bytes with
      | [] => [[b]]
      | folder :: rest => (b :: folder) :: rest

/-- The path of a name in a folder of a search list. -/
def pathIn (folder name : Bytes) : Bytes := if folder = [] then name else folder ++ slash :: name

/-- Whether a search goes on after an error. -/
def isPassedOver : OsError → Bool
  | .noEntry | .notDirectory | .accessDenied => true
  | _ => false

/-- Tries folders in order. If all of them are passed over, the last error stands, unless a file
was there that may not be started. -/
def searchFrom (m : Machine) (folder : Location) (name : Bytes) (args : List Bytes) :
    (failure : OsError) → List Bytes → Except OsError Image
  | failure, [] => .error failure
  | failure, inner :: rest =>
    match ofPath m folder name (pathIn inner name) args with
    | .ok image => .ok image
    | .error e =>
      if isPassedOver e then
        searchFrom m folder name args (if failure = .accessDenied then failure else e) rest
      else .error e

/-- Finds what a command line starts. -/
def search (m : Machine) (folder : Location) (folders program : Bytes) (args : List Bytes) :
    Except OsError Image :=
  if program.contains slash then ofPath m folder program program args
  else if program = [] then .error .noEntry
  else if Object.maxName < program.length then .error .nameTooLong
  else searchFrom m folder program args .noEntry (searchFolders folders)

end Image

end Handoff.Host

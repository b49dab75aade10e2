import Handoff.Host.Tools.Help
import Handoff.Host.Tools.Quoting

/-!
The tool that removes files.

It may be told to ask before it does so. The answer is a line of its input, and means yes if it
begins with the letter `y` in either case.
-/

namespace Handoff.Host.Remove

/-- When the tool asks. -/
inductive Asking where
  | never
  /-- Once, if it is told to remove many files or folders. -/
  | once
  | always
  deriving DecidableEq, Repr

structure Manner where
  asking : Asking
  /-- Whether files that are not there are passed over. -/
  passesMissing : Bool
  recursive : Bool
  emptyFolders : Bool
  verbose : Bool
  deriving DecidableEq, Repr

def Manner.usual : Manner := ⟨.never, false, false, false, false⟩

private def table : OptionTable where
  letters := ['d', 'f', 'i', 'I', 'r', 'R', 'v'].map (·, .nothing)
  words := [("dir", .nothing, "d"), ("force", .nothing, "f"),
    ("interactive", .optionalValue, "interactive"),
    ("one-file-system", .nothing, "one-file-system"),
    ("no-preserve-root", .nothing, "no-preserve-root"),
    ("preserve-root", .optionalValue, "preserve-root"),
    ("-presume-input-tty", .nothing, "-presume-input-tty"), ("recursive", .nothing, "r"),
    ("verbose", .nothing, "v"), ("help", .nothing, "help"), ("version", .nothing, "version")]

/-- The words for when to ask. -/
private def askingWords : List (String × Asking) :=
  [("never", .never), ("no", .never), ("none", .never), ("once", .once), ("always", .always),
   ("yes", .always)]

/-- What a word means, which may be cut short as long as its meaning is clear. -/
def asking? (word : List Char) : Option Asking :=
  match askingWords.find? fun entry => entry.1.toList = word with
  | some (_, asking) => some asking
  | none =>
    match askingWords.filter fun entry => word.isPrefixOf entry.1.toList with
    | [] => none
    | (_, asking) :: others => if others.all (·.2 = asking) then some asking else none

private def Manner.asks (m : Manner) : Asking → Manner
  | .never => { m with asking := .never }
  | asking => { m with asking, passesMissing := false }

private def Manner.withOption (m : Manner) (value : Option (List Char)) : String → Manner
  | "d" => { m with emptyFolders := true }
  | "f" => { m with asking := .never, passesMissing := true }
  | "i" => m.asks .always
  | "I" => m.asks .once
  | "interactive" => m.asks ((value.bind asking?).getD .always)
  | "r" | "R" => { m with recursive := true }
  | "v" => { m with verbose := true }
  | _ => m

/-- Checks the value of an option. -/
private def check (r : Request) (name : String) (value : Option (List Char)) : Work Unit := do
  match name, value with
  | "interactive", some word =>
    if (asking? word).isNone then
      let kind :=
        if askingWords.any fun entry => word.isPrefixOf entry.1.toList then "ambiguous argument "
        else "invalid argument "
      r.complain (kind.toList ++ Quoting.marked word ++ " for '--interactive'".toList)
      r.tell "Valid arguments are:\n  - 'never', 'no', 'none'\n".toList
      r.tell "  - 'once'\n  - 'always', 'yes'\n".toList
      r.tell ("Try '".toList ++ r.name.octets ++ " --help' for more information.\n".toList)
      throw 1
  | "no-preserve-root", _ =>
    if !r.args.contains (Bytes.ofString "--no-preserve-root") then
      r.giveUp "you may not abbreviate the --no-preserve-root option".toList
  | "preserve-root", some word =>
    if word ≠ "all".toList then
      r.giveUp ("unrecognized --preserve-root argument: ".toList ++ Quoting.shellQuoted word)
  | _, _ => pure ()

/-- Asks something. -/
private def asked (r : Request) (question : List Char) : Work Bool := do
  r.tell (r.name.octets ++ ':' :: ' ' :: question ++ ['?', ' '])
  match ← r.pending .input with
  | .error _ => return false
  | .ok bytes =>
    let line := bytes.takeWhile (· ≠ Bytes.newline)
    r.skipInput (min bytes.length (line.length + 1))
    return (Bytes.octets line).head?.any fun c => c = 'y' || c = 'Y'

/-- Whether a path ends in a folder's name for itself or for the one above it. -/
private def isDots (path : List Char) : Bool :=
  let trimmed := (path.reverse.dropWhile (· = '/')).takeWhile (· ≠ '/')
  trimmed = ['.'] || trimmed = ['.', '.']

private def removeFile (r : Request) (m : Manner) (path : List Char) (node : Nat) : Work Unit := do
  let machine : Machine ← liftM (get : Act Machine)
  let kind := if (machine.node node).content = [] then "regular empty file " else "regular file "
  if m.asking = .always then
    if !(← asked r ("remove ".toList ++ kind.toList ++ Quoting.shellQuoted path)) then return
  match machine.resolveParent r.context.folder (Bytes.ofOctets path) with
  | .error _ => pure ()
  | .ok (folder, name) =>
    liftM (removeEntry folder name : Act Unit)
    if m.verbose then r.putText ("removed ".toList ++ Quoting.shellQuoted path ++ ['\n'])

private def removePath (r : Request) (m : Manner) (path : List Char) : Work Unit := do
  let refuse (reason : String) : Work Unit :=
    r.complain ("cannot remove ".toList ++ Quoting.shellQuoted path ++ (": " ++ reason).toList)
  if m.recursive ∧ isDots path then
    r.complain ("refusing to remove '.' or '..' directory: skipping ".toList ++
      Quoting.shellQuoted path)
  else
    match ← r.resolve path with
    | .ok (.file node) => removeFile r m path node
    | .ok (.folder location) =>
      if location = [] ∧ m.recursive then
        r.complain "it is dangerous to operate recursively on '/'".toList
        r.warn "use --no-preserve-root to override this failsafe".toList
      else if m.recursive ∨ m.emptyFolders then refuse "Directory not empty"
      else refuse OsError.isDirectory.reason
    | .ok _ => refuse OsError.accessDenied.reason
    | .error e =>
      if m.passesMissing ∧ (e = .noEntry ∨ e = .notDirectory) then pure () else refuse e.reason

/-- Points to a file that was taken for an option. -/
private def diagnoseDash (r : Request) : Work Unit := do
  for arg in r.args.map Bytes.octets do
    if arg.head? = some '-' ∧ 1 < arg.length then
      if (← r.resolve arg) matches .ok _ then
        r.tell ("Try '".toList ++ r.name.octets ++ " ./".toList ++ Quoting.shell arg ++
          "' to remove the file ".toList ++ Quoting.shellQuoted arg ++ ".\n".toList)
        return

private def tryHelp (r : Request) : List Char :=
  "Try '".toList ++ r.name.octets ++ " --help' for more information.\n".toList

/-- Removes files. -/
def run (r : Request) : Work Unit := do
  let arguments := r.arguments table
  r.options .remove { arguments with fault := none } (check r)
  if let some fault := arguments.fault then
    r.complain fault
    diagnoseDash r
    r.tell (tryHelp r)
    throw 1
  let m : Manner := arguments.options.foldl (fun m (name, value) => m.withOption value name) .usual
  let paths : List (List Char) := arguments.operands
  if paths = [] then
    if m.passesMissing then return
    r.misused "missing operand".toList
  if m.asking = .once ∧ (m.recursive ∨ 3 < paths.length) then
    let question := "remove " ++ toString paths.length ++
      (if paths.length = 1 then " argument" else " arguments") ++
      (if m.recursive then " recursively" else "")
    if !(← asked r question.toList) then return
  paths.forM (removePath r m)

end Handoff.Host.Remove

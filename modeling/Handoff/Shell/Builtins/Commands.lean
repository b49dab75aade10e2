import Handoff.Shell.Builtins.Call

/-!
Commands about commands: what names stand for, where they were found, and aliases.

Lists of names come in the order of the tables they are kept in, which hash them.
-/

namespace Handoff.Shell.Call

open Handoff.Host

/-- The place of a name in a table. -/
private def slot (size : Nat) (name : Text) : Nat :=
  let first := (name.head?.map Char.toNat).getD 0
  ((first * 16 + (name.map Char.toNat).foldl (· + ·) 0) % 0x8000) % size

/-- Names in the order of a table of some size; they were put there last one first. -/
private def inTable {α : Type} (size : Nat) (entries : List (String × α)) : List (String × α) :=
  (List.range size).flatMap fun n =>
    entries.reverse.filter fun (name, _) => slot size name.toList = n

/-! ### Aliases -/

private def aliasTableSize : Nat := 39

private def printAlias (name : Text) (replacement : Text) : Run Unit :=
  putLine (name ++ '=' :: quoteText replacement)

private def notFound (command : String) (name : Text) : Run Unit :=
  tell 2 (command.toList ++ ": ".toList ++ name ++ " not found\n".toList)

/-- Gives an alias a replacement, in its place if it has one already. -/
private def setAlias (name : String) (replacement : Text) : Run Unit := modify fun s =>
  if s.aliases.any (·.1 = name) then
    { s with aliases := s.aliases.map fun (n, r) => (n, if n = name then replacement else r) }
  else { s with aliases := (name, replacement) :: s.aliases }

def «alias» (call : Call) : Run Nat := do
  if call.args.isEmpty then
    (inTable aliasTableSize (← get).aliases).forM fun (name, replacement) =>
      printAlias name.toList replacement
    return 0
  let codes ← call.args.mapM fun arg => do
    let name := arg.take 1 ++ (arg.drop 1).takeWhile (· ≠ '=')
    let label := String.ofList name
    if name.length < arg.length then
      setAlias label (arg.drop (name.length + 1))
      return 0
    match (← get).aliases.lookup label with
    | some replacement =>
      printAlias name replacement
      return 0
    | none =>
      notFound "alias" name
      return 1
  return codes.foldl max 0

def unalias (call : Call) : Run Nat := do
  let (options, names) ← call.options "a"
  if !options.isEmpty then
    modify fun s => { s with aliases := [] }
    return 0
  let codes ← names.mapM fun name => do
    let label := String.ofList name
    let s ← get
    if s.aliases.any (·.1 = label) then
      set { s with aliases := s.aliases.filter (·.1 ≠ label) }
      return 0
    notFound "unalias" name
    return 1
  return codes.foldl max 0

/-! ### What names stand for -/

private def exists? (path : Text) : Run Bool := do
  let s ← get
  return (s.machine.resolve s.folder path.bytes).isOk

/-- Says what a name stands for, in words or as a script would use it. -/
private def describe (look : Lookup) (inWords : Bool) (name : Text) : Run Nat := do
  let say (words : Text) (bare : Text) : Run Nat := do
    putLine (if inWords then name ++ words else bare)
    return 0
  if (Keyword.ofText? name).isSome then return ← say " is a shell keyword".toList name
  let s ← get
  if let some replacement := s.aliases.lookup (String.ofList name) then
    if inWords then return ← say (" is an alias for ".toList ++ replacement) []
    put "alias ".toList
    printAlias name replacement
    return 0
  let isTracked := look.isOwnPath && s.hashed.any fun (n, _) => n.toList = name
  let (found, s) := s.find look name
  set s
  match found with
  | .program place =>
    if place.isSome || (← exists? name) then
      let path := Session.pathOf look name place
      say ((if isTracked then " is a tracked alias for " else " is ").toList ++ path) path
    else absent
  | .function _ => say " is a shell function".toList name
  | .builtin b =>
    let kind := if b.isSpecial then " is a special shell builtin" else " is a shell builtin"
    say kind.toList name
  | .nothing _ => absent
where
  absent : Run Nat := do
    if inWords then putLine (name ++ ": not found".toList)
    return 127

def type (call : Call) : Run Nat := do
  let codes ← call.args.mapM (describe (← get).lookup true)
  return codes.foldl max 0

/-- The form of the command that only says what a name stands for. -/
def command (call : Call) : Run Nat := do
  let (options, names) ← call.options "pvV"
  let has (c : Char) : Bool := options.any (·.1 = c)
  let s ← get
  let look : Lookup := if has 'p' then ⟨false, Session.usualPath, false⟩ else s.lookup
  match names with
  | name :: _ => if has 'v' || has 'V' then describe look (has 'V') name else return 0
  | [] => return 0

/-! ### Where commands were found -/

private def commandTableSize : Nat := 31

def hash (call : Call) : Run Nat := do
  let (options, names) ← call.options "r"
  if !options.isEmpty then
    modify fun s => { s with hashed := [] }
    return 0
  let s ← get
  if names.isEmpty then
    (inTable commandTableSize s.hashed).forM fun (name, place) =>
      putLine (Session.pathOf s.lookup name.toList (some place))
    return 0
  let codes ← names.mapM fun name => do
    modify fun s => { s with hashed := s.hashed.filter (·.1 ≠ String.ofList name) }
    let s ← get
    let (found, s) := s.find s.lookup name
    set s
    match found with
    | .nothing e =>
      warn (name ++ ": ".toList ++ (reasonOf "not found" e).toList)
      return 1
    | _ => return 0
  return codes.foldl max 0

end Handoff.Shell.Call

import Handoff.Shell.Builtins.Call

/-!
The command that tests files, texts and numbers.

Its arguments are an expression. An argument that is no operator, or stands where no operator can,
is an operand; a text alone is true if it is not empty.
-/

namespace Handoff.Shell.Call

open Handoff.Host

/-- What an argument can be. -/
private inductive Mark where
  | unary | binary | «not» | «and» | or | openParen | closeParen
  deriving DecidableEq

private def mark? (arg : Text) : Option Mark :=
  match String.ofList arg with
  | "!" => some .not
  | "-a" => some .and
  | "-o" => some .or
  | "(" => some .openParen
  | ")" => some .closeParen
  | label =>
    if ["-r", "-w", "-x", "-e", "-f", "-d", "-c", "-b", "-p", "-u", "-g", "-k", "-s", "-t", "-z",
        "-n", "-h", "-O", "-G", "-L", "-S"].contains label then some .unary
    else if ["=", "!=", "<", ">", "-eq", "-ne", "-ge", "-gt", "-le", "-lt", "-nt", "-ot",
        "-ef"].contains label then some .binary
    else none

/-- What the first argument is, in view of those behind it; none for an operand. -/
private def markAt (args : List Text) : Option Mark :=
  match args with
  | [] => none
  | arg :: rest =>
    match mark? arg with
    | some .unary =>
      match rest with
      | [] => none
      | [_] => some .unary
      | next :: _ => if mark? next = some .binary then none else some .unary
    | some .openParen => if rest = [] then none else some .openParen
    | mark => mark

private def refuse {α : Type} (op : Text) (message : String) : Run α :=
  failWith (if op = [] then message.toList else op ++ ": ".toList ++ message.toList)

/-! ### Files and numbers -/

private def object? (path : Text) : Run (Option Object) := do
  let s ← get
  return (s.machine.resolve s.folder path.bytes).toOption

private def isDirectory : Object → Bool
  | .folder _ => true
  | _ => false

private def isPlain : Object → Bool
  | .file _ | .tool _ | .foreign => true
  | _ => false

private def isSpecialFile : Object → Bool
  | .device _ => true
  | _ => false

private def isExecutable (m : Machine) : Object → Bool
  | .folder _ | .tool _ => true
  | .file n => (m.node n).executable
  | _ => false

private def hasContent (m : Machine) : Object → Bool
  | .folder _ | .tool _ | .foreign => true
  | .file n => (m.node n).content ≠ []
  | _ => false

private def numberOf (text : Text) : Run Int := do
  match wholeNumber? 10 text with
  | some n => return n
  | none => failWith (illegalNumber text)

private def unary (op : Text) (operand : Text) : Run Bool := do
  let file (p : Machine → Object → Bool) : Run Bool := do
    let m := (← get).machine
    return ((← object? operand).map (p m)).getD false
  match String.ofList op with
  | "-z" => return operand = []
  | "-n" => return operand ≠ []
  | "-t" =>
    discard (numberOf operand)
    return false
  | "-e" | "-r" | "-w" | "-O" | "-G" => file fun _ _ => true
  | "-x" => file isExecutable
  | "-f" => file fun _ o => isPlain o
  | "-d" => file fun _ o => isDirectory o
  | "-c" => file fun _ o => isSpecialFile o
  | "-s" => file hasContent
  | _ => return false

private def binary (op : Text) (a b : Text) : Run Bool := do
  let numbers (p : Int → Int → Bool) : Run Bool := do
    let x ← numberOf a
    return p x (← numberOf b)
  match String.ofList op with
  | "=" => return a = b
  | "!=" => return a ≠ b
  | "<" => return a ≠ b && Text.isBefore a b
  | ">" => return a ≠ b && Text.isBefore b a
  | "-eq" => numbers fun x y => x = y
  | "-ne" => numbers fun x y => x ≠ y
  | "-ge" => numbers fun x y => x ≥ y
  | "-gt" => numbers fun x y => x > y
  | "-le" => numbers fun x y => x ≤ y
  | "-lt" => numbers fun x y => x < y
  | "-ef" =>
    match ← object? a, ← object? b with
    | some x, some y => return x = y
    | _, _ => return false
  | _ => return false

/-! ### Expressions -/

/-- The arguments from the one on that is being looked at. -/
private abbrev Testing := StateT (List Text) Run

private def lift {α : Type} (action : Run α) : Testing α := liftM action

/-- What the argument behind the current one is. -/
private def following : Testing (Option Mark) := do return markAt ((← get).drop 1)

private def step : Testing Unit := modify (·.drop 1)

private def here : Testing Text := do return (← get).headD []

mutual

private def alternatives : (fuel : Nat) → Option Mark → Testing Bool
  | 0, _ => lift (refuse [] "too deep")
  | fuel + 1, mark => do
    let a ← joint fuel mark
    if (← following) = some .or then
      step
      step
      let b ← alternatives fuel (markAt (← get))
      return a || b
    return a

private def joint : (fuel : Nat) → Option Mark → Testing Bool
  | 0, _ => lift (refuse [] "too deep")
  | fuel + 1, mark => do
    let a ← negation fuel mark
    if (← following) = some .and then
      step
      step
      let b ← joint fuel (markAt (← get))
      return a && b
    return a

private def negation : (fuel : Nat) → Option Mark → Testing Bool
  | 0, _ => lift (refuse [] "too deep")
  | fuel + 1, mark => do
    if mark ≠ some .not then return ← primary fuel mark
    let mark ← following
    if ((← get).drop 1).isEmpty then return true
    step
    return !(← negation fuel mark)

private def primary : (fuel : Nat) → Option Mark → Testing Bool
  | 0, _ => lift (refuse [] "too deep")
  | fuel + 1, mark => do
    if (← get).isEmpty then return false
    match mark with
    | some .openParen =>
      step
      let mark := markAt (← get)
      if mark = some .closeParen then return false
      let result ← alternatives fuel mark
      step
      unless markAt (← get) = some .closeParen do lift (refuse [] "closing paren expected")
      return result
    | some .unary =>
      let op ← here
      step
      if (← get).isEmpty then lift (refuse op "argument expected")
      lift (unary op (← here))
    | _ =>
      if (← following) = some .binary then
        let a ← here
        step
        let op ← here
        step
        if (← get).isEmpty then lift (refuse op "argument expected")
        lift (binary op a (← here))
      else return (← here) ≠ []

end

/-- The value of an expression; few arguments are read by their number. -/
private def evaluate : (fuel : Nat) → List Text → Run Bool
  | 0, _ => return false
  | fuel + 1, args => do
    if args.isEmpty then return false
    let whole (args : List Text) (mark : Option Mark) : Run Bool := do
      let (result, rest) ← (alternatives (8 * args.length + 8) mark).run args
      match rest with
      | op :: _ :: _ => refuse op "unexpected operator"
      | _ => return result
    let isBinary := args.length = 3 && (args[1]?.bind mark?) = some .binary
    if isBinary then whole args none
    else if args.length = 3 || args.length = 4 then
      if args.head? = some ['('] && args.getLast? = some [')'] then
        let inside := (args.drop 1).dropLast
        whole inside (markAt inside)
      else if args.head? = some ['!'] then return !(← evaluate fuel (args.drop 1))
      else whole args (markAt args)
    else whole args (markAt args)

def test (call : Call) : Run Nat := do
  let args ←
    if call.name.head? = some '[' then
      if call.args.getLast? ≠ some [']'] then failString "missing ]"
      else pure call.args.dropLast
    else pure call.args
  return if ← evaluate (args.length + 1) args then 0 else 1

end Handoff.Shell.Call

import Handoff.Number.Binary
import Handoff.Number.Layout
import Handoff.Shell.Builtins.Call

/-!
Commands that put text out.

Backslashes are treated alike everywhere, except that texts to be printed may end with `\c` and
have octal numbers that begin with a zero more.
-/

namespace Handoff.Shell

open Handoff.Number

/-! ### Escapes -/

namespace Escapes

private def isOctal (c : Char) : Bool := '0' ≤ c && c ≤ '7'

private def readOctal : (limit value : Nat) → Text → Nat × Text
  | limit + 1, value, c :: cs =>
    if isOctal c then readOctal limit (value * 8 + (c.toNat - '0'.toNat)) cs else (value, c :: cs)
  | _, value, cs => (value, cs)

/-- The character that stands behind a backslash, and what follows; the backslash itself stands if
nothing is known of it. -/
def read (cs : Text) : Char × Text :=
  match cs with
  | [] => ('\\', [])
  | c :: rest =>
    match c with
    | '\\' => ('\\', rest)
    | 'a' => ('\x07', rest)
    | 'b' => ('\x08', rest)
    | 'e' => ('\x1b', rest)
    | 'f' => ('\x0c', rest)
    | 'n' => ('\n', rest)
    | 'r' => ('\r', rest)
    | 't' => ('\t', rest)
    | 'v' => ('\x0b', rest)
    | _ =>
      if isOctal c then
        let (value, rest) := readOctal 3 0 cs
        (Char.ofNat (value % 256), rest)
      else ('\\', cs)

/-- A text with its escapes, and whether it was cut short. -/
def expandWithin : (fuel : Nat) → Text → Text × Bool
  | 0, _ | _, [] => ([], false)
  | fuel + 1, '\\' :: cs =>
    match cs with
    | 'c' :: _ => ([], true)
    | cs =>
      let cs :=
        match cs with
        | '0' :: d :: rest => if isOctal d then d :: rest else cs
        | _ => cs
      let (c, rest) := read cs
      let (text, isCut) := expandWithin fuel rest
      (c :: text, isCut)
  | fuel + 1, c :: cs =>
    let (text, isCut) := expandWithin fuel cs
    (c :: text, isCut)

def expand (text : Text) : Text × Bool := expandWithin text.length text

end Escapes

namespace Call

private def echoArgs : List Text → Text × Bool
  | [] => ([], false)
  | [arg] => Escapes.expand arg
  | arg :: args =>
    match Escapes.expand arg with
    | (text, true) => (text, true)
    | (text, false) =>
      let (rest, isCut) := echoArgs args
      (text ++ ' ' :: rest, isCut)

def echo (call : Call) : Run Nat := do
  let isBare := call.args.head? = some ['-', 'n']
  let (text, isCut) := echoArgs (if isBare then call.args.drop 1 else call.args)
  put text
  unless isBare || isCut do put ['\n']
  return 0

/-! ### Formats -/

/-- The arguments that are left, whether any has been used, and the exit code. -/
private structure Filling where
  args : List Text
  code : Nat

private abbrev Fill := StateT Filling Run

private def nextArg? : Fill (Option Text) := do
  let f ← get
  match f.args with
  | [] => return none
  | arg :: args =>
    set { f with args }
    return some arg

private def complain (arg : Text) (reason : String) : Fill Unit := do
  (warn (arg ++ ": ".toList ++ reason.toList) : Run Unit)
  modify fun f => { f with code := 1 }

/-- Complains about an argument of which `rest` has not been converted. -/
private def check (arg rest : Text) (isOut : Bool) : Fill Unit := do
  if rest ≠ [] then
    complain arg (if rest = arg then "expected numeric value" else "not completely converted")
  else if isOut then complain arg "Numerical result out of range"

/-- The character behind a quote that an argument begins with. -/
private def quoted? : Text → Option Nat
  | '"' :: cs | '\'' :: cs => some ((cs.head?.map Char.toNat).getD 0)
  | _ => none

private def signedArg : Fill Int := do
  let some arg ← nextArg? | return 0
  if let some n := quoted? arg then return n
  let w := Whole.scan 0 arg
  let (n, isOut) := w.signed
  check arg w.rest isOut
  return n

private def unsignedArg : Fill Nat := do
  let some arg ← nextArg? | return 0
  if let some n := quoted? arg then return n
  let w := Whole.scan 0 arg
  let (n, isOut) := w.unsigned
  check arg w.rest isOut
  return n

private def realArg : Fill Binary := do
  let some arg ← nextArg? | return (Binary.scan .double ['0']).value
  if let some n := quoted? arg then
    return (Binary.scan .double (toString n).toList).value
  let x := Binary.scan .double arg
  check arg x.rest x.outOfRange
  return x.value

private def withFlag? (l : Layout) : Char → Option Layout
  | '#' => some { l with alternate := true }
  | '-' => some { l with left := true }
  | '+' => some { l with plus := true }
  | ' ' => some { l with space := true }
  | '0' => some { l with zero := true }
  | _ => none

private def readFlags (l : Layout) : Text → Layout × Text
  | [] => (l, [])
  | c :: cs =>
    match withFlag? l c with
    | some l => readFlags l cs
    | none => (l, c :: cs)

private def readWidth (l : Layout) (cs : Text) : Fill (Layout × Text) := do
  match cs with
  | '*' :: rest =>
    let width ← signedArg
    return ({ l with width := width.natAbs, left := l.left || width < 0 }, rest)
  | _ =>
    let (width, _, rest) := scanDigits 10 0 0 cs
    return ({ l with width }, rest)

private def readPrecision (l : Layout) (cs : Text) : Fill (Layout × Text) := do
  match cs with
  | '.' :: '*' :: rest =>
    let precision ← signedArg
    return ({ l with precision := if precision < 0 then none else some precision.toNat }, rest)
  | '.' :: rest =>
    let (precision, _, rest) := scanDigits 10 0 0 rest
    return ({ l with precision := some precision }, rest)
  | _ => return (l, cs)

private def out (text : Text) : Fill Unit := liftM (put text)

private def outReal (l : Layout) (form : Binary.Form) (isUpper : Bool) : Fill Unit := do
  out ((← realArg).render .double form isUpper l)

/-- Fills a directive; gives what follows it, or nothing if the end of all was reached. -/
private def fillDirective (cs : Text) : Fill (Option Text) := do
  let (l, rest) := readFlags .plain cs
  let (l, rest) ← readWidth l rest
  let (l, rest) ← readPrecision l rest
  match rest with
  | [] => (failString "missing format character" : Run (Option Text))
  | conversion :: after =>
    match conversion with
    | 'b' =>
      let (text, isCut) := Escapes.expand ((← nextArg?).getD [])
      out (l.text text)
      return if isCut then none else some after
    | 'c' => out (l.padded [((← nextArg?).getD []).headD '\x00'])
    | 's' => out (l.text ((← nextArg?).getD []))
    | 'd' | 'i' => out (l.decimal (← signedArg))
    | 'o' => out (l.octal (← unsignedArg))
    | 'u' => out (l.unsigned (← unsignedArg))
    | 'x' => out (l.hexadecimal false (← unsignedArg))
    | 'X' => out (l.hexadecimal true (← unsignedArg))
    | 'a' | 'A' => outReal l .hexadecimal conversion.isUpper
    | 'e' | 'E' => outReal l .scientific conversion.isUpper
    | 'f' | 'F' => outReal l .fixed conversion.isUpper
    | 'g' | 'G' => outReal l .general conversion.isUpper
    | _ =>
      let shown := '%' :: cs.take (cs.length - after.length)
      (failWith (shown ++ ": invalid directive".toList) : Run Unit)
    return some after

/-- Goes through a format once; says whether it is to be gone through again. -/
private def fillOnce : (fuel : Nat) → Text → Fill Bool
  | 0, _ | _, [] => return true
  | fuel + 1, '\\' :: cs => do
    let (c, rest) := Escapes.read cs
    out [c]
    fillOnce fuel rest
  | fuel + 1, '%' :: '%' :: cs => do
    out ['%']
    fillOnce fuel cs
  | fuel + 1, '%' :: cs => do
    match ← fillDirective cs with
    | some rest => fillOnce fuel rest
    | none => return false
  | fuel + 1, c :: cs => do
    out [c]
    fillOnce fuel cs

/-- Goes through a format as long as that uses up arguments. -/
private def fill (form : Text) : (bound : Nat) → Fill Unit
  | 0 => pure ()
  | bound + 1 => do
    let before := (← get).args.length
    let goesOn ← fillOnce form.length form
    let left := (← get).args.length
    if goesOn && left < before && 0 < left then fill form bound

/-- Fills a format with arguments. -/
def printf (call : Call) : Run Nat := do
  match ← call.operands with
  | [] => failString "usage: printf format [arg ...]"
  | form :: args =>
    let ((), filling) ← (fill form (args.length + 1)).run ⟨args, 0⟩
    return filling.code

end Call

end Handoff.Shell

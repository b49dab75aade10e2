import Handoff.Host.Tools.Help
import Handoff.Host.Tools.Quoting
import Handoff.Number.Binary

/-!
The tool that fills a format with arguments.

The format is gone through again as long as it uses arguments up. `Directive.read?` reads what
stands behind a percent sign; flags and precision decide which conversions may follow them.
-/

namespace Handoff.Host.Format

open Handoff.Number

/-- The arguments that are left; a tool that fills a format keeps them beside its progress. -/
abbrev Filling := StateT (List (List Char)) Work

/-- Takes the next argument, if there is one. -/
private def nextArg? : Filling (Option (List Char)) := do
  match ← get with
  | [] => return none
  | arg :: args => set args; return some arg

/-! ### Escapes -/

private def scanAtMost (base : Nat) : (limit value count : Nat) → List Char → Nat × Nat × List Char
  | 0, value, count, cs => (value, count, cs)
  | _, value, count, [] => (value, count, [])
  | limit + 1, value, count, c :: cs =>
    match digit? base c with
    | some d => scanAtMost base limit (value * base + d) (count + 1) cs
    | none => (value, count, c :: cs)

private def octet (n : Nat) : Char := Char.ofNat (n % 256)

private def simpleEscape? : Char → Option Char
  | '"' => some '"'
  | '\\' => some '\\'
  | 'a' => some '\x07'
  | 'b' => some '\x08'
  | 'e' => some '\x1b'
  | 'f' => some '\x0c'
  | 'n' => some '\n'
  | 'r' => some '\r'
  | 't' => some '\t'
  | 'v' => some '\x0b'
  | _ => none

private def upperHex (width n : Nat) : List Char :=
  let ds := (Nat.toDigits 16 n).map Char.toUpper
  List.replicate (width - ds.length) '0' ++ ds

/-- A character by its number: itself within ASCII, else spelled out. -/
private def codePoint (n : Nat) : List Char :=
  if n < 128 then [Char.ofNat n]
  else if n < 0x10000 then '\\' :: 'u' :: upperHex 4 n
  else '\\' :: 'U' :: upperHex 8 n

private def isForbidden (n : Nat) : Bool :=
  (n ≤ 0x9f && n ≠ 0x24 && n ≠ 0x40 && n ≠ 0x60) || (0xd800 ≤ n && n ≤ 0xdfff)

private def putCodePoint (r : Request) (mark : Char) (cs : List Char) : Work (List Char) := do
  let width := if mark = 'u' then 4 else 8
  let (value, count, rest) := scanAtMost 16 width 0 0 cs
  if count < width then r.giveUp "missing hexadecimal number in escape".toList
  if isForbidden value then
    let ds := Nat.toDigits 16 value
    r.giveUp ("invalid universal character name \\".toList ++
      mark :: List.replicate (width - ds.length) '0' ++ ds)
  r.putText (codePoint value)
  return rest

/-- Puts out what a backslash and the characters behind it stand for, and gives what follows.
`zeroFirst` says whether a number in base eight begins with a zero that does not count. -/
def putEscape (r : Request) (zeroFirst : Bool) (cs : List Char) : Work (List Char) := do
  match cs with
  | [] => r.putText ['\\']; return []
  | 'x' :: rest =>
    let (value, count, rest) := scanAtMost 16 2 0 0 rest
    if count = 0 then r.giveUp "missing hexadecimal number in escape".toList
    r.putText [octet value]
    return rest
  | 'c' :: _ => throw 0
  | c :: rest =>
    if (digit? 8 c).isSome then
      let (value, _, rest) := scanAtMost 8 3 0 0 (if zeroFirst ∧ c = '0' then rest else cs)
      r.putText [octet value]
      return rest
    else if c = 'u' ∨ c = 'U' then putCodePoint r c rest
    else
      r.putText (((simpleEscape? c).map ([·])).getD ['\\', c])
      return rest

/-- Puts out a text with its escapes replaced. `bound` is the length of the text. -/
private def putEscaped (r : Request) : (bound : Nat) → List Char → Work Unit
  | _, [] => pure ()
  | 0, _ => pure ()
  | bound + 1, '\\' :: cs => do putEscaped r bound (← putEscape r true cs)
  | bound + 1, c :: cs => do r.putText [c]; putEscaped r bound cs

/-! ### Numbers -/

/-- What follows a character that is taken for its number is of no use. -/
private def warnOfRest (r : Request) (rest : List Char) : Work Unit :=
  unless rest = [] do
    r.warn ("warning: ".toList ++ rest ++
      ": character(s) following character constant have been ignored".toList)

/-- Complains about an argument that is not the number it should be. -/
private def verify (r : Request) (arg rest : List Char) (outOfRange : Bool) : Work Unit := do
  if outOfRange then r.complain (Quoting.marked arg ++ ": Numerical result out of range".toList)
  else unless rest = [] do
    let fault :=
      if rest = arg then ": expected a numeric value" else ": value not completely converted"
    r.complain (Quoting.marked arg ++ fault.toList)

/-- The number of the character behind a quote. -/
private def ofQuote? : List Char → Option (Nat × List Char)
  | quote :: c :: rest => if quote = '\'' ∨ quote = '"' then some (c.toNat, rest) else none
  | _ => none

private def signedArg (r : Request) (arg : List Char) : Work Int := do
  match ofQuote? arg with
  | some (n, rest) => warnOfRest r rest; return n
  | none =>
    let w := Whole.scan 0 arg
    let (value, outOfRange) := w.signed
    verify r arg w.rest outOfRange
    return value

private def unsignedArg (r : Request) (arg : List Char) : Work Nat := do
  match ofQuote? arg with
  | some (n, rest) => warnOfRest r rest; return n
  | none =>
    let w := Whole.scan 0 arg
    let (value, outOfRange) := w.unsigned
    verify r arg w.rest outOfRange
    return value

private def realArg (r : Request) (arg : List Char) : Work Binary := do
  match ofQuote? arg with
  | some (n, rest) => warnOfRest r rest; return .finite false n 0
  | none =>
    let s := Binary.scan .extended arg
    verify r arg s.rest s.outOfRange
    return s.value

/-! ### Directives -/

private def allConversions : List Char :=
  ['a', 'A', 'c', 'd', 'e', 'E', 'f', 'F', 'g', 'G', 'i', 'o', 's', 'u', 'x', 'X']

/-- The conversions that a flag rules out; none for what is no flag. -/
private def ruledOut? : Char → Option (List Char)
  | 'I' | '\'' => some ['a', 'A', 'c', 'e', 'E', 'o', 's', 'x', 'X']
  | '-' | '+' | ' ' => some []
  | '#' => some ['c', 'd', 'i', 's', 'u']
  | '0' => some ['c', 's']
  | _ => none

private def withFlag (l : Layout) : Char → Layout
  | '-' => { l with left := true }
  | '+' => { l with plus := true }
  | ' ' => { l with space := true }
  | '#' => { l with alternate := true }
  | '0' => { l with zero := true }
  | _ => l

private def readFlags (l : Layout) (allowed : List Char) :
    List Char → Layout × List Char × List Char
  | [] => (l, allowed, [])
  | c :: cs =>
    match ruledOut? c with
    | some out => readFlags (withFlag l c) (allowed.filter (!out.contains ·)) cs
    | none => (l, allowed, c :: cs)

/-- The largest and the smallest width. -/
private def maxWidth : Int := 2147483647

private def readWidth (r : Request) (l : Layout) (cs : List Char) :
    Filling (Layout × List Char) := do
  match cs with
  | '*' :: rest =>
    let some arg ← nextArg? | return (l, rest)
    let width ← (signedArg r arg : Work Int)
    if width < -maxWidth - 1 ∨ maxWidth < width then
      (r.giveUp ("invalid field width: ".toList ++ Quoting.marked arg) : Work Unit)
    return ({ l with width := width.natAbs, left := l.left || width < 0 }, rest)
  | _ =>
    let (width, _, rest) := scanDigits 10 0 0 cs
    return ({ l with width }, rest)

private def readPrecision (r : Request) (l : Layout) (cs : List Char) :
    Filling (Layout × List Char) := do
  match cs with
  | '.' :: '*' :: rest =>
    let some arg ← nextArg? | return ({ l with precision := some 0 }, rest)
    let precision ← (signedArg r arg : Work Int)
    if maxWidth < precision then
      (r.giveUp ("invalid precision: ".toList ++ Quoting.marked arg) : Work Unit)
    return ({ l with precision := if precision < 0 then none else some precision.toNat }, rest)
  | '.' :: rest =>
    let (precision, _, rest) := scanDigits 10 0 0 rest
    return ({ l with precision := some precision }, rest)
  | _ => return (l, cs)

private def isLengthMark (c : Char) : Bool := ['l', 'L', 'h', 'j', 't', 'z'].contains c

/-- Puts out a converted argument. -/
private def convert (r : Request) (l : Layout) (conversion : Char) (arg : List Char) :
    Work Unit := do
  let real (form : Binary.Form) : Work Unit := do
    let x ← realArg r arg
    r.putText (x.render .extended form conversion.isUpper l)
  match conversion with
  | 'd' | 'i' => r.putText (l.decimal (← signedArg r arg))
  | 'u' => r.putText (l.unsigned (← unsignedArg r arg))
  | 'o' => r.putText (l.octal (← unsignedArg r arg))
  | 'x' => r.putText (l.hexadecimal false (← unsignedArg r arg))
  | 'X' => r.putText (l.hexadecimal true (← unsignedArg r arg))
  | 'f' | 'F' => real .fixed
  | 'e' | 'E' => real .scientific
  | 'g' | 'G' => real .general
  | 'a' | 'A' => real .hexadecimal
  | 'c' => r.putText (l.padded [arg.headD '\x00'])
  | _ => r.putText (l.text arg)

/-- Fills a directive, whose percent sign has been read, and gives what follows it. -/
private def fillDirective (r : Request) (cs : List Char) : Filling (List Char) := do
  match cs with
  | '%' :: rest => r.putText ['%']; return rest
  | 'b' :: rest =>
    if let some arg ← nextArg? then putEscaped r arg.length arg
    return rest
  | 'q' :: rest =>
    if let some arg ← nextArg? then r.putText (Quoting.shell arg)
    return rest
  | _ =>
    let (l, allowed, rest) := readFlags .plain allConversions cs
    let (l, rest) ← readWidth r l rest
    let allowed := if rest.head? = some '.' then allowed.filter (· ≠ 'c') else allowed
    let (l, rest) ← readPrecision r l rest
    let rest := rest.dropWhile isLengthMark
    match rest with
    | c :: after =>
      if !allowed.contains c then refuse (cs.take (cs.length - after.length))
      convert r l c ((← nextArg?).getD [])
      return after
    | [] => refuse cs; return []
where
  refuse (directive : List Char) : Work Unit :=
    r.giveUp ('%' :: directive ++ ": invalid conversion specification".toList)

/-- Goes through a format once. `bound` is its length. -/
private def fillOnce (r : Request) : (bound : Nat) → List Char → Filling Unit
  | _, [] => pure ()
  | 0, _ => pure ()
  | bound + 1, '%' :: cs => do fillOnce r bound (← fillDirective r cs)
  | bound + 1, '\\' :: cs => do fillOnce r bound (← (putEscape r false cs : Work (List Char)))
  | bound + 1, c :: cs => do r.putText [c]; fillOnce r bound cs

/-- Goes through a format as long as that uses up arguments. `bound` is one more than their
number. -/
private def fill (r : Request) (form : List Char) : (bound : Nat) → Filling Unit
  | 0 => pure ()
  | bound + 1 => do
    let before := (← get).length
    fillOnce r form.length form
    let left := (← get).length
    if left < before ∧ 0 < left then fill r form bound

/-- Fills a format with arguments. -/
def run (r : Request) : Work Unit := do
  match r.args.map Bytes.label with
  | ["--help"] => r.help .format; throw 0
  | ["--version"] => r.version .format; throw 0
  | _ => pure ()
  let args := r.args.map Bytes.octets
  let args := if args.head? = some ['-', '-'] then args.tail else args
  match args with
  | [] => r.misused "missing operand".toList
  | form :: args =>
    let ((), left) ← (fill r form (args.length + 1)).run args
    if let some arg := left.head? then
      r.warn ("warning: ignoring excess arguments, starting with ".toList ++ Quoting.marked arg)

end Handoff.Host.Format

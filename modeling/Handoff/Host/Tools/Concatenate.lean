import Handoff.Host.Tools.Help
import Handoff.Host.Tools.Quoting

/-!
The tool that writes files one after another.

With the right options it shows a text instead of just writing it: lines get numbers, their ends
become visible and so do other bytes. `Display.next` does so byte by byte, and goes on from one
file to the next as if they were one text.
-/

namespace Handoff.Host.Concatenate

/-- How a text is shown. -/
structure Style where
  numbers : Bool
  /-- Whether empty lines get no number. -/
  skipsEmpty : Bool
  squeezes : Bool
  showsEnds : Bool
  showsTabs : Bool
  showsOthers : Bool
  deriving DecidableEq, Repr

def Style.plain : Style := ⟨false, false, false, false, false, false⟩

/-- Where in a text the next byte stands. -/
inductive Place where
  | withinLine
  /-- At the start of a line, behind so many empty ones. -/
  | lineStart (empty : Nat)
  deriving DecidableEq, Repr

structure Display where
  place : Place
  /-- The number of the last line that got one. -/
  line : Nat
  /-- Whether a carriage return is held back: it is only shown in front of a line's end. -/
  heldReturn : Bool

def Display.start : Display := ⟨.lineStart 0, 0, false⟩

private def numbered (n : Nat) : List Char :=
  let digits := Nat.toDigits 10 n
  List.replicate (6 - digits.length) ' ' ++ digits ++ ['\t']

/-- A byte in a visible form: control bytes behind a caret, those beyond ASCII behind `M-`. -/
def visible (c : Char) : List Char :=
  let low := c.toNat % 128
  (if 128 ≤ c.toNat then ['M', '-'] else []) ++
    if low < 32 then ['^', Char.ofNat (low + 64)]
    else if low = 127 then ['^', '?']
    else [Char.ofNat low]

private def shown (style : Style) (c : Char) : List Char :=
  if c = '\t' then if style.showsTabs then ['^', 'I'] else [c]
  else if style.showsOthers then visible c
  else [c]

private def lineEnd (style : Style) (d : Display) : List Char :=
  if style.showsEnds then (if d.heldReturn then ['^', 'M'] else []) ++ ['$', '\n'] else ['\n']

/-- What is written for a byte. -/
def Display.next (style : Style) (d : Display) (c : Char) : List Char × Display :=
  if c = '\n' then
    match d.place with
    | .withinLine => (lineEnd style d, { d with place := .lineStart 0, heldReturn := false })
    | .lineStart empty =>
      if 1 ≤ empty ∧ style.squeezes then ([], d)
      else
        let counts := style.numbers && !style.skipsEmpty
        let line := if counts then d.line + 1 else d.line
        ((if counts then numbered line else []) ++ lineEnd style d,
          ⟨.lineStart (empty + 1), line, false⟩)
  else
    let counts := style.numbers && d.place ≠ .withinLine
    let line := if counts then d.line + 1 else d.line
    let holds := c = '\r' && style.showsEnds && !style.showsOthers
    ((if d.heldReturn then ['\r'] else []) ++ (if counts then numbered line else []) ++
        (if holds then [] else shown style c),
      ⟨.withinLine, line, holds⟩)

/-- What is written for a text. -/
def Display.run (style : Style) (d : Display) (text : List Char) : List Char × Display :=
  let (pieces, d) := text.foldl (fun (pieces, d) c =>
    let (piece, d) := d.next style c
    (piece :: pieces, d)) ([], d)
  (pieces.reverse.flatten, d)

private def table : OptionTable where
  letters := ['b', 'e', 'n', 's', 't', 'u', 'v', 'A', 'E', 'T'].map (·, .nothing)
  words := [("number-nonblank", .nothing, "b"), ("number", .nothing, "n"),
    ("squeeze-blank", .nothing, "s"), ("show-nonprinting", .nothing, "v"),
    ("show-ends", .nothing, "E"), ("show-tabs", .nothing, "T"), ("show-all", .nothing, "A"),
    ("help", .nothing, "help"), ("version", .nothing, "version")]

private def Style.withOption (style : Style) : String → Style
  | "b" => { style with numbers := true, skipsEmpty := true }
  | "e" => { style with showsEnds := true, showsOthers := true }
  | "n" => { style with numbers := true }
  | "s" => { style with squeezes := true }
  | "t" => { style with showsTabs := true, showsOthers := true }
  | "v" => { style with showsOthers := true }
  | "A" => { style with showsEnds := true, showsTabs := true, showsOthers := true }
  | "E" => { style with showsEnds := true }
  | "T" => { style with showsTabs := true }
  | _ => style

/-- Whether a file that is about to be written out is the output itself and would never end. -/
private def feedsItself (r : Request) (reading : Request.Reading) : Work Bool := do
  let some input ← r.openingOf reading | return false
  let some (node, content) ← r.plainFile? (some input) | return false
  match ← r.plainFile? (← r.outputOpening) with
  | some (target, _) => return node = target && input.position < content.content.length
  | none => return false

/-- Writes what has been put out so far; there is no going on if that fails. -/
private def deliver (r : Request) : Work Unit := do
  r.flush
  if let some e := (← get).fault then
    modify fun progress => { progress with fault := none }
    r.giveUp ("write error: " ++ e.reason).toList

private def writeFile (r : Request) (style : Style) (display : Display) (path : List Char) :
    Work Display := do
  match ← r.openFile path with
  | .error e => r.complainOf (Quoting.name path) e; return display
  | .ok reading =>
    if ← feedsItself r reading then
      r.complain (Quoting.name path ++ ": input file is output file".toList)
      return display
    match ← r.readAll reading with
    | .error e => r.complainOf (Quoting.name path) e; return display
    | .ok bytes =>
      if style = .plain then
        r.put bytes
        deliver r
        return display
      else
        let (text, display) := display.run style bytes.octets
        r.putText text
        deliver r
        return display

/-- Writes files one after another. -/
def run (r : Request) : Work Unit := do
  let arguments := r.arguments table
  r.options .concatenate arguments fun _ _ => pure ()
  let style := arguments.options.foldl (fun style (name, _) => style.withOption name) .plain
  if (← r.outputOpening).isNone then
    r.giveUp ("standard output: " ++ OsError.badDescriptor.reason).toList
  let paths := if arguments.operands = [] then [['-']] else arguments.operands
  let display ← paths.foldlM (writeFile r style) .start
  if display.heldReturn then r.putText ['\r']
  deliver r
  if paths.contains ['-'] ∧ (← r.openingOf .input).isNone then
    r.giveUp ("closing standard input: " ++ OsError.badDescriptor.reason).toList

end Handoff.Host.Concatenate

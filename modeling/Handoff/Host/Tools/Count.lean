import Handoff.Host.Tools.Help
import Handoff.Host.Tools.Quoting

/-!
The tool that counts lines, words and bytes.

A word is a run of bytes that can be shown; bytes that cannot be shown and are no white space
neither begin a word nor end one. Numbers stand in columns, whose width comes from the sizes of
the files before any of them is read.
-/

namespace Handoff.Host.Count

/-- What can be counted of a text. -/
structure Counts where
  lines : Nat
  words : Nat
  bytes : Nat
  /-- The width of the widest line. -/
  widest : Nat
  deriving DecidableEq, Repr

def Counts.zero : Counts := ⟨0, 0, 0, 0⟩

def Counts.add (a b : Counts) : Counts :=
  ⟨a.lines + b.lines, a.words + b.words, a.bytes + b.bytes, max a.widest b.widest⟩

/-- How far a text has been counted. -/
private structure Tally where
  counts : Counts
  inWord : Bool
  /-- The column of the next byte. -/
  column : Nat

private def Tally.endWord (t : Tally) : Tally :=
  { t with inWord := false, counts.words := t.counts.words + if t.inWord then 1 else 0 }

private def Tally.endLine (t : Tally) : Tally :=
  { t with column := 0, counts.widest := max t.counts.widest t.column }

private def Tally.next (t : Tally) (c : Char) : Tally :=
  let t := { t with counts.bytes := t.counts.bytes + 1 }
  match c with
  | '\n' => { t with counts.lines := t.counts.lines + 1 }.endLine.endWord
  | '\r' | '\x0c' => t.endLine.endWord
  | '\t' => { t with column := t.column + 8 - t.column % 8 }.endWord
  | ' ' => { t with column := t.column + 1 }.endWord
  | '\x0b' => t.endWord
  | c => if Quoting.isPrintable c then { t with inWord := true, column := t.column + 1 } else t

/-- Counts a text. -/
def counts (text : List Char) : Counts :=
  (text.foldl Tally.next ⟨.zero, false, 0⟩).endLine.endWord.counts

/-- Which counts are asked for. -/
structure Selection where
  lines : Bool
  words : Bool
  chars : Bool
  bytes : Bool
  widest : Bool
  deriving DecidableEq, Repr

def Selection.none : Selection := ⟨false, false, false, false, false⟩

def Selection.usual : Selection := ⟨true, true, false, true, false⟩

/-- The counts that are asked for, in the order in which they are shown. -/
def Selection.of (s : Selection) (c : Counts) : List Nat :=
  [(s.lines, c.lines), (s.words, c.words), (s.chars, c.bytes), (s.bytes, c.bytes),
    (s.widest, c.widest)].filterMap fun (asked, n) => if asked then some n else .none

/-- Whether only the size of a file matters. -/
def Selection.onlySize (s : Selection) : Bool := !s.lines && !s.words && !s.widest

private def table : OptionTable where
  letters := ['c', 'l', 'L', 'm', 'w'].map (·, .nothing)
  words := [("bytes", .nothing, "c"), ("chars", .nothing, "m"), ("lines", .nothing, "l"),
    ("words", .nothing, "w"), ("debug", .nothing, "debug"), ("files0-from", .value, "files0-from"),
    ("max-line-length", .nothing, "L"), ("help", .nothing, "help"),
    ("version", .nothing, "version")]

private def Selection.withOption (s : Selection) : String → Selection
  | "c" => { s with bytes := true }
  | "m" => { s with chars := true }
  | "l" => { s with lines := true }
  | "w" => { s with words := true }
  | "L" => { s with widest := true }
  | _ => s

/-- What is known of a file before it is read. -/
private inductive Size where
  | unknown | plain (size : Nat) | other

private def sizeOf (r : Request) (path : Option (List Char)) : Work Size := do
  match path with
  | .none | some ['-'] =>
    match ← r.plainFile? (← r.openingOf .input) with
    | some (_, node) => return .plain node.content.length
    | .none => return if (← r.openingOf .input).isNone then .unknown else .other
  | some path =>
    match ← r.resolve path with
    | .ok (.file index) =>
      let m : Machine ← liftM (get : Act Machine)
      return .plain (m.node index).content.length
    | .ok _ => return .other
    | .error _ => return .unknown

private def columnWidth (sizes : List Size) : Nat :=
  let total := sizes.foldl (fun n size => match size with | .plain k => n + k | _ => n) 0
  let digits := (Nat.toDigits 10 total).length
  if sizes.any (· matches .other) then max 7 digits else digits

private def row (width : Nat) (numbers : List Nat) : List Char :=
  [' '].intercalate (numbers.map fun n =>
    let digits := Nat.toDigits 10 n
    List.replicate (width - digits.length) ' ' ++ digits)

/-- Shows a row of counts. -/
private def putRow (r : Request) (width : Nat) (s : Selection) (c : Counts)
    (label : Option (List Char)) : Work Unit := do
  let shown := label.map fun label =>
    ' ' :: if label.contains '\n' then Quoting.name label else label
  r.putText (row width (s.of c) ++ shown.getD [] ++ ['\n'])
  r.flush

/-- How many bytes a page of the system has. -/
private def pageSize : Nat := 4096

/-- Reads and counts a file. A plain file of which only the size is asked for is not read, unless
its size makes it seem to be one that the system makes up. -/
private def countFile (r : Request) (s : Selection) (reading : Request.Reading) :
    Work (Except OsError Counts) := do
  match ← r.pending reading with
  | .error e => return .error e
  | .ok bytes =>
    let keeps := match ← r.plainFile? (← r.openingOf reading) with
      | some (_, node) => s.onlySize && node.content.length % pageSize ≠ 0
      | .none => false
    if reading matches .input then
      if !keeps then r.skipInput bytes.length
    return .ok (counts bytes.octets)

private def count (r : Request) (width : Nat) (s : Selection) (total : Counts)
    (path : Option (List Char)) : Work Counts := do
  let label := Quoting.name (path.getD "standard input".toList)
  if path = some [] then
    r.complain "invalid zero-length file name".toList
    return total
  match ← r.openFile (path.getD ['-']) with
  | .error e => r.complainOf label e; return total
  | .ok reading =>
    match ← countFile r s reading with
    | .ok c => putRow r width s c path; return total.add c
    | .error e =>
      r.complainOf label e
      putRow r width s .zero path
      return total

/-- The names in a text that ends each of them with a NUL. -/
def namesOf (text : List Char) : List (List Char) :=
  let (last, names) := text.foldl (fun (current, names) c =>
    if c = '\x00' then ([], current.reverse :: names) else (c :: current, names)) ([], [])
  (if last = [] then names else last.reverse :: names).reverse

/-- The files to be counted; without any it is the input. -/
private def pathsOf (r : Request) (arguments : Arguments) : Work (List (Option (List Char))) := do
  match (arguments.options.reverse.lookup "files0-from").join, arguments.operands with
  | .none, [] => return [.none]
  | .none, operands => return operands.map some
  | some _, operand :: _ =>
    r.complain ("extra operand ".toList ++ Quoting.shellQuoted operand)
    r.tell "file operands cannot be combined with --files0-from\n".toList
    r.tell ("Try '".toList ++ r.name.octets ++ " --help' for more information.\n".toList)
    throw 1
  | some list, [] =>
    let refuse (e : OsError) : Work (List (Option (List Char))) :=
      r.giveUp ("cannot open ".toList ++ Quoting.shellQuoted list ++
        " for reading: ".toList ++ e.reason.toList)
    match ← r.openFile list with
    | .error e => refuse e
    | .ok reading =>
      match ← r.readAll reading with
      | .error e => refuse e
      | .ok bytes => return (namesOf bytes.octets).map some

/-- Counts lines, words and bytes. -/
def run (r : Request) : Work Unit := do
  let arguments := r.arguments table
  r.options .count arguments fun _ _ => pure ()
  let asked : Selection := arguments.options.foldl (fun s (name, _) => s.withOption name) .none
  let s : Selection := if asked = .none then .usual else asked
  let paths ← pathsOf r arguments
  let lone := paths.length = 1 && (s.of .zero).length = 1
  let width ← if lone then pure 1 else columnWidth <$> paths.mapM (sizeOf r)
  let total ← paths.foldlM (count r width s) .zero
  if 1 < paths.length then putRow r width s total (some "total".toList)
  let closed := (← r.openingOf .input).isNone
  if closed && paths.any (fun path => path.getD ['-'] = ['-']) then
    r.complainOf ['-'] .badDescriptor

end Handoff.Host.Count

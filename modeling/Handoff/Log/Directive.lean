import Handoff.Log.Level
import Handoff.Text.Alphanumeric
import Handoff.Text.Blank
import Handoff.Text.ByteOffset

/-!
A directive of a log filter: a level for the events of some target, or for what happens inside
some span.

    level
    target
    target=level
    target[span]=level
    target[span\x7bfield=value\x7d]=level

Everything but the brackets may be left out of the last two forms. A directive without a span that
names a field, but no value of it, is for the events that have such a field.

A piece is scanned without the blanks at its ends, but the parts of a directive are cut out of the
piece as it stands, at the byte offsets that the scan found. Blanks in front therefore shift every
part, and an offset may come to lie inside a character: there is no directive to be had then, and
the reading of the whole filter is broken off.

Which values a field can have is not settled here: `readable` says of a text whether it is one.
-/

namespace Handoff.Log

/-- A field that a directive names. -/
structure Field where
  name : List Char
  /-- The value that it must have; none for any. -/
  value : Option (List Char)
  deriving DecidableEq, Repr

structure Directive where
  /-- The start of the targets it is about; none for all. -/
  target : Option (List Char)
  /-- The span inside which it holds. -/
  span : Option (List Char)
  field : Option Field
  level : Level
  deriving DecidableEq, Repr

/-- Why there is no log filter to be had from a text. -/
inductive FilterFault where
  | invalid
  /-- The reading was broken off, and the program with it. -/
  | aborted
  deriving DecidableEq, Repr

/-- Reads a field, and its value behind an equals sign. Another such sign ends the value. -/
def Field.ofText? (readable : List Char → Bool) (text : List Char) : Option Field :=
  let name := text.takeWhile (· ≠ '=')
  match text.dropWhile (· ≠ '=') with
  | [] => if name = [] then none else some ⟨name, none⟩
  | _ :: rest =>
    let value := rest.takeWhile (· ≠ '=')
    if readable value then some ⟨name, some value⟩ else none

namespace Directive

/-- Whether a directive can begin with a character. -/
def isOpening (c : Char) : Bool :=
  c = '[' || c = '-' || c = ':' || c = '_' || c.isAlphanum ||
    (0x80 ≤ c.toNat && Text.alphanumericRanges.contains c)

/-- The part of a piece between two offsets. -/
def cut (piece : List Char) (start stop : Nat) : Except FilterFault (List Char) :=
  match Text.slice? piece start stop with
  | some part => .ok part
  | none => .error .aborted

/-- The level that stands from an offset on. -/
def levelAt (piece : List Char) (start : Nat) : Except FilterFault Level :=
  match Text.dropBytes? start piece with
  | none => .error .aborted
  | some [] => .ok .trace
  | some part =>
    match Level.ofText? part with
    | some level => .ok level
    | none => .error .invalid

/-- The level behind a closing bracket. `start` is the offset after the bracket and `after` what
the scan finds there. -/
def levelBehind (piece : List Char) (start : Nat) (after : List Char) :
    Except FilterFault Level :=
  match after with
  | [] => .ok .trace
  | c :: _ => if c = '=' then levelAt piece (start + 1) else .error .invalid

/-- What a piece without any mark says: a level for all targets, or a target. -/
def ofUnmarked (piece : List Char) : Directive :=
  match Level.ofText? piece with
  | some level => ⟨none, none, none, level⟩
  | none => ⟨some piece, none, none, .trace⟩

/-- What follows an opening brace: the field up to the closing one, the closing bracket, and
perhaps a level. `start` is the offset after the brace and `rest` what the scan finds there. -/
def ofField (readable : List Char → Bool) (piece : List Char) (target span : Option (List Char))
    (start : Nat) (rest : List Char) : Except FilterFault Directive := do
  let stop := start + Text.byteLength (rest.takeWhile (· ≠ '\x7d'))
  match rest.dropWhile (· ≠ '\x7d') with
  | [] => throw .invalid
  | _ :: after =>
    match Field.ofText? readable (← cut piece start stop) with
    | none => throw .invalid
    | some field =>
      if after.head? = some ']' then
        return ⟨target, span, some field, ← levelBehind piece (stop + 2) after.tail⟩
      else throw .invalid

/-- Whether a character ends the name of a span. -/
def endsSpan (c : Char) : Bool := c = ']' || c = '\x7b'

/-- What follows an opening bracket: the span, and perhaps a field or a level. `start` is the
offset after the bracket and `rest` what the scan finds there. In front of a field, an empty name
stands for no span at all. -/
def ofSpan (readable : List Char → Bool) (piece : List Char) (target : Option (List Char))
    (start : Nat) (rest : List Char) : Except FilterFault Directive := do
  let stop := start + Text.byteLength (rest.takeWhile (!endsSpan ·))
  match rest.dropWhile (!endsSpan ·) with
  | [] => throw .invalid
  | mark :: after =>
    let span ← cut piece start stop
    if mark = ']' then
      return ⟨target, some span, none, ← levelBehind piece (stop + 1) after⟩
    else ofField readable piece target (if span = [] then none else some span) (stop + 1) after

/-- Whether a character ends a target. -/
def isMark (c : Char) : Bool := c = '=' || c = '['

/-- Reads a directive off a piece. -/
def ofPiece (readable : List Char → Bool) (piece : List Char) : Except FilterFault Directive := do
  let body := Text.trim piece
  if !body.head?.any isOpening then throw .invalid
  let stop := Text.byteLength (body.takeWhile (!isMark ·))
  match body.dropWhile (!isMark ·) with
  | [] => return ofUnmarked piece
  | mark :: rest =>
    if mark = '=' then
      let target ← cut piece 0 stop
      return ⟨some target, none, none, ← levelAt piece (stop + 1)⟩
    else if stop = 0 then ofSpan readable piece none 1 rest
    else
      let target ← cut piece 0 stop
      ofSpan readable piece (some target) (stop + 1) rest

/-- Whether a directive is about events, and not about what happens inside some span or while a
field has some value. -/
def isStatic (d : Directive) : Bool := d.span.isNone && d.field.all (·.value.isNone)

/-- The fields that an event must have; there is one at most. -/
def fieldNames (d : Directive) : List (List Char) := d.field.toList.map Field.name

/-- Whether a directive is about an event. -/
def concerns (d : Directive) (event : Metadata) : Bool :=
  d.isStatic && (d.target.getD []).isPrefixOf event.target && d.fieldNames.all event.fields.contains

/-- How closely a directive says which targets it is about. -/
def specificity (d : Directive) : Nat :=
  match d.target with
  | none => 0
  | some target => Text.byteLength target + 1

/-- Whether a directive goes before another one, wherever they stand: it is more specific, or
equally so and names a field that the other does not name, or a later one in the alphabet. -/
def outranks (d other : Directive) : Bool :=
  other.specificity < d.specificity ||
    (other.specificity = d.specificity && other.fieldNames < d.fieldNames)

end Directive

end Handoff.Log

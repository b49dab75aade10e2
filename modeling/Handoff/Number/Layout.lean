/-!
How a converted value is laid out: signs, zeros in front and the width that it is brought up to.
-/

namespace Handoff.Number

structure Layout where
  /-- Whether it stands at the left of its width. -/
  left : Bool
  /-- Whether a number that is not negative shows a sign, or else a space in its place. -/
  plus : Bool
  space : Bool
  /-- Whether the longer form of a conversion is asked for. -/
  alternate : Bool
  /-- Whether the width is filled with zeros. -/
  zero : Bool
  width : Nat
  precision : Option Nat
  deriving DecidableEq, Repr

namespace Layout

def plain : Layout := ⟨false, false, false, false, false, 0, none⟩

/-- The sign in front of a number. -/
def sign (l : Layout) (negative : Bool) : List Char :=
  if negative then ['-'] else if l.plus then ['+'] else if l.space then [' '] else []

/-- A text within the width, with spaces around it. -/
def padded (l : Layout) (text : List Char) : List Char :=
  let gap := List.replicate (l.width - text.length) ' '
  if l.left then text ++ gap else gap ++ text

/-- A number within the width; `zeros` says whether zeros may fill it. -/
def number (l : Layout) (zeros : Bool) (front digits : List Char) : List Char :=
  if l.zero && zeros && !l.left then
    front ++ List.replicate (l.width - front.length - digits.length) '0' ++ digits
  else l.padded (front ++ digits)

/-- A text, cut down to the precision. -/
def text (l : Layout) (cs : List Char) : List Char :=
  l.padded ((l.precision.map cs.take).getD cs)

/-- Digits, with zeros in front up to the precision. Zero itself has no digits if none are asked
for. -/
private def digits (l : Layout) (base value : Nat) : List Char :=
  let ds := if value = 0 ∧ l.precision.isSome then [] else Nat.toDigits base value
  List.replicate (l.precision.getD 0 - ds.length) '0' ++ ds

/-- A whole number in base ten. -/
def decimal (l : Layout) (value : Int) : List Char :=
  l.number l.precision.isNone (l.sign (value < 0)) (l.digits 10 value.natAbs)

def unsigned (l : Layout) (value : Nat) : List Char :=
  l.number l.precision.isNone [] (l.digits 10 value)

/-- A whole number in base eight; its longer form begins with a zero. -/
def octal (l : Layout) (value : Nat) : List Char :=
  let ds := l.digits 8 value
  let ds := if l.alternate ∧ ds.head? ≠ some '0' then '0' :: ds else ds
  l.number l.precision.isNone [] ds

/-- A whole number in base sixteen; its longer form begins with a mark unless it is zero. -/
def hexadecimal (l : Layout) (upper : Bool) (value : Nat) : List Char :=
  let ds := l.digits 16 value
  let front := if l.alternate ∧ value ≠ 0 then ['0', 'x'] else []
  let raise (cs : List Char) := if upper then cs.map Char.toUpper else cs
  l.number l.precision.isNone (raise front) (raise ds)

end Layout

end Handoff.Number

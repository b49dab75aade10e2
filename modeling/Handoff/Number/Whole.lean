/-!
Whole numbers at the start of a text.

`Whole.scan` reads blanks, a sign and digits, as far as they go. The number is not bounded; it is
brought into a machine word by `Whole.signed` and `Whole.unsigned`, which go to the nearest end of
the range and say so.
-/

namespace Handoff.Number

/-- Whether a character is white space to the readers of numbers. -/
def isBlank (c : Char) : Bool := c = ' ' || ('\t' ≤ c && c ≤ '\r')

/-- The value of a digit in a base. -/
def digit? (base : Nat) (c : Char) : Option Nat :=
  let value :=
    if '0' ≤ c && c ≤ '9' then some (c.toNat - '0'.toNat)
    else if 'a' ≤ c && c ≤ 'z' then some (c.toNat - 'a'.toNat + 10)
    else if 'A' ≤ c && c ≤ 'Z' then some (c.toNat - 'A'.toNat + 10)
    else none
  value.filter (· < base)

/-- Reads digits after a number read so far; also counts them. -/
def scanDigits (base : Nat) (value count : Nat) : List Char → Nat × Nat × List Char
  | [] => (value, count, [])
  | c :: cs =>
    match digit? base c with
    | some d => scanDigits base (value * base + d) (count + 1) cs
    | none => (value, count, c :: cs)

structure Whole where
  negative : Bool
  magnitude : Nat
  /-- What follows; all of the text if there was no digit. -/
  rest : List Char
  /-- Whether there was a digit. -/
  found : Bool
  deriving DecidableEq, Repr

namespace Whole

/-- The base that digits are in, by what they start with, and the digits. -/
private def detect (cs : List Char) : Nat × List Char :=
  match cs with
  | '0' :: x :: d :: rest =>
    if (x = 'x' || x = 'X') && (digit? 16 d).isSome then (16, d :: rest) else (8, cs)
  | '0' :: _ => (8, cs)
  | _ => (10, cs)

/-- Reads a number in a base; the base 0 is the one that the digits themselves tell. -/
def scan (base : Nat) (text : List Char) : Whole :=
  let cs := text.dropWhile isBlank
  let (negative, cs) :=
    match cs with
    | '-' :: cs => (true, cs)
    | '+' :: cs => (false, cs)
    | cs => (false, cs)
  let (base, cs) := if base = 0 then detect cs else (base, cs)
  let (magnitude, count, rest) := scanDigits base 0 0 cs
  if count = 0 then ⟨false, 0, text, false⟩ else ⟨negative, magnitude, rest, true⟩

/-- One more than the largest word of 64 bits. -/
def wordLimit : Nat := 18446744073709551616

/-- The largest and the smallest word with a sign. -/
def maxSigned : Int := 9223372036854775807

def minSigned : Int := -9223372036854775808

/-- The value as a word with a sign, and whether it had to be brought into range. -/
def signed (w : Whole) : Int × Bool :=
  let value : Int := if w.negative then -(w.magnitude : Int) else w.magnitude
  if value < minSigned then (minSigned, true)
  else if maxSigned < value then (maxSigned, true)
  else (value, false)

/-- The value as a word without a sign, and whether it had to be brought into range. A negative
number wraps around. -/
def unsigned (w : Whole) : Nat × Bool :=
  if wordLimit ≤ w.magnitude then (wordLimit - 1, true)
  else if w.negative then ((wordLimit - w.magnitude) % wordLimit, false)
  else (w.magnitude, false)

/-- The value of a word that counts as negative from half its range on. -/
def wrap (value : Int) : Int :=
  let word := value.emod wordLimit
  if maxSigned < word then word - wordLimit else word

end Whole

end Handoff.Number

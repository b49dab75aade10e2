import Handoff.Number.Layout
import Handoff.Number.Whole

/-!
Binary floating-point numbers, read from text and written as text.

Both directions are exact: a text is taken for the quotient of two whole numbers and rounded once,
to the nearest number of the format; to be written, a number is scaled to a whole one and rounded
once. Ties go to the even neighbour.
-/

namespace Handoff.Number

/-- A format: how many bits a number has, the exponent of the smallest number, and the exponent
that is too large. -/
structure BinaryFormat where
  bits : Nat
  least : Int
  limit : Int
  deriving DecidableEq, Repr

/-- The format of 64 bits. -/
def BinaryFormat.double : BinaryFormat := ⟨53, -1074, 1024⟩

/-- The format of 80 bits. -/
def BinaryFormat.extended : BinaryFormat := ⟨64, -16445, 16384⟩

/-- A number: `mantissa` times two to the power of `exponent`. -/
inductive Binary where
  | finite (negative : Bool) (mantissa : Nat) (exponent : Int)
  | infinite (negative : Bool)
  | undefined (negative : Bool)
  deriving DecidableEq, Repr

/-- The nearest whole number to a quotient; a tie goes to the even one. -/
def roundQuotient (num den : Nat) : Nat :=
  let quotient := num / den
  let twice := 2 * (num % den)
  if twice < den ∨ (twice = den ∧ quotient % 2 = 0) then quotient else quotient + 1

/-- How many bits a number has. -/
def bitLength (n : Nat) : Nat := if n = 0 then 0 else n.log2 + 1

namespace Binary

/-- A quotient times two to the power of `-shift`, rounded. -/
private def scaled (num den : Nat) (shift : Int) : Nat :=
  if 0 ≤ shift then roundQuotient num (den <<< shift.toNat)
  else roundQuotient (num <<< (-shift).toNat) den

/-- The number of a format that is nearest to a quotient, and whether the quotient is out of the
format's range. -/
def ofQuotient (f : BinaryFormat) (negative : Bool) (num den : Nat) : Binary × Bool :=
  if num = 0 then (.finite negative 0 0, false)
  else
    let guess : Int := (bitLength num : Int) - bitLength den - f.bits
    let large := Nat.shiftLeft 1 f.bits
    let guess := if large ≤ scaled num den guess then guess + 1 else guess
    let exponent := max guess f.least
    let mantissa := scaled num den exponent
    if f.limit < exponent + bitLength mantissa then (.infinite negative, true)
    else
      let exact :=
        if 0 ≤ exponent then (mantissa <<< exponent.toNat) * den = num
        else mantissa * den = num <<< (-exponent).toNat
      (.finite negative mantissa exponent, guess < f.least && !exact)

/-! ### Reading -/

/-- Digits with a point among them: their value, how many stand behind the point, how many there
are, and what follows. -/
private def scanPointed (base : Nat) (cs : List Char) : Nat × Nat × Nat × List Char :=
  let (whole, count, rest) := scanDigits base 0 0 cs
  match rest with
  | '.' :: more =>
    let (value, behind, rest') := scanDigits base whole 0 more
    if count + behind = 0 then (0, 0, 0, rest) else (value, behind, count + behind, rest')
  | _ => (whole, 0, count, rest)

/-- An exponent behind one of two letters; without digits there is none. -/
private def scanExponent (lower : Char) (cs : List Char) : Int × List Char :=
  match cs with
  | c :: rest =>
    if c = lower || c = lower.toUpper then
      let signed := match rest with | '-' :: _ | '+' :: _ => true | _ => false
      let w := Whole.scan 10 rest
      if (signed || (rest.head?.bind (digit? 10)).isSome) && w.found then
        (if w.negative then -(w.magnitude : Int) else w.magnitude, w.rest)
      else (0, cs)
    else (0, cs)
  | [] => (0, cs)

/-- Exponents beyond this are brought back to it: they are far out of the range of all formats. -/
private def exponentBound : Int := 40000

private def clamp (e : Int) : Int := max (-exponentBound) (min exponentBound e)

private def startsWith? (word : List Char) (cs : List Char) : Option (List Char) :=
  if (cs.take word.length).map Char.toLower = word then some (cs.drop word.length) else none

/-- What may stand in brackets behind the word for an undefined number. -/
private def skipBrackets (cs : List Char) : List Char :=
  match cs with
  | '(' :: rest =>
    let inner := rest.dropWhile fun c => c.isAlphanum || c = '_'
    if inner.head? = some ')' then inner.tail else cs
  | _ => cs

/-- A number read off a text. -/
structure Scanned where
  value : Binary
  /-- What follows; all of the text if there was no number. -/
  rest : List Char
  outOfRange : Bool

private def scanDecimal (f : BinaryFormat) (negative : Bool) (text cs : List Char) : Scanned :=
  let (value, behind, count, rest) := scanPointed 10 cs
  if count = 0 then ⟨.finite false 0 0, text, false⟩
  else
    let (e, rest) := scanExponent 'e' rest
    let power := clamp (e - behind)
    let (num, den) :=
      if value = 0 then (0, 1)
      else if 0 ≤ power then (value * Nat.pow 10 power.toNat, 1)
      else (value, Nat.pow 10 (-power).toNat)
    let (number, outOfRange) := ofQuotient f negative num den
    ⟨number, rest, outOfRange⟩

private def scanHexadecimal (f : BinaryFormat) (negative : Bool) (text cs : List Char) : Scanned :=
  let (value, behind, count, rest) := scanPointed 16 (cs.drop 2)
  if count = 0 then scanDecimal f negative text cs
  else
    let (e, rest) := scanExponent 'p' rest
    let power := clamp (e - 4 * behind)
    let (num, den) :=
      if 0 ≤ power then (value <<< power.toNat, 1) else (value, Nat.shiftLeft 1 (-power).toNat)
    let (number, outOfRange) := ofQuotient f negative num den
    ⟨number, rest, outOfRange⟩

/-- Reads a number of a format. -/
def scan (f : BinaryFormat) (text : List Char) : Scanned :=
  let cs := text.dropWhile isBlank
  let (negative, cs) :=
    match cs with
    | '-' :: cs => (true, cs)
    | '+' :: cs => (false, cs)
    | cs => (false, cs)
  match startsWith? ['i', 'n', 'f'] cs, startsWith? ['n', 'a', 'n'] cs with
  | some rest, _ =>
    ⟨.infinite negative, (startsWith? ['i', 'n', 'i', 't', 'y'] rest).getD rest, false⟩
  | _, some rest => ⟨.undefined negative, skipBrackets rest, false⟩
  | none, none =>
    if (startsWith? ['0', 'x'] cs).isSome then scanHexadecimal f negative text cs
    else scanDecimal f negative text cs

/-! ### Writing -/

/-- A number times ten to the power of `places`, rounded to a whole one. -/
private def timesTen (mantissa : Nat) (exponent places : Int) : Nat :=
  let num := if 0 ≤ places then mantissa * Nat.pow 10 places.toNat else mantissa
  let den := if 0 ≤ places then 1 else Nat.pow 10 (-places).toNat
  scaled num den (-exponent)

private def withPoint (l : Layout) (whole behind : List Char) : List Char :=
  whole ++ (if behind = [] ∧ !l.alternate then [] else '.' :: behind)

private def zeroPadded (width n : Nat) : List Char :=
  let ds := Nat.toDigits 10 n
  List.replicate (width - ds.length) '0' ++ ds

/-- A number with so many digits behind the point. -/
private def fixed (l : Layout) (mantissa : Nat) (exponent : Int) (places : Nat) : List Char :=
  let ds := zeroPadded (places + 1) (timesTen mantissa exponent places)
  withPoint l (ds.take (ds.length - places)) (ds.drop (ds.length - places))

/-- The power of ten in front of a number when it is rounded to `places` digits behind its first
one, and those digits. -/
private def normalized (mantissa : Nat) (exponent : Int) (places : Nat) : Int × List Char :=
  if mantissa = 0 then (0, List.replicate (places + 1) '0')
  else
    let bits := exponent + bitLength mantissa - 1
    let guess := (bits * 30103).fdiv 100000
    let digitsAt (power : Int) : List Char :=
      Nat.toDigits 10 (timesTen mantissa exponent (places - power))
    let tries := [guess - 1, guess, guess + 1, guess + 2]
    match tries.find? fun power => (digitsAt power).length = places + 1 with
    | some power => (power, digitsAt power)
    | none => (guess, digitsAt guess)

private def exponentText (mark : Char) (width : Nat) (e : Int) : List Char :=
  mark :: (if e < 0 then '-' else '+') :: zeroPadded width e.natAbs

private def scientific (l : Layout) (mantissa : Nat) (exponent : Int) (places : Nat) : List Char :=
  let (power, ds) := normalized mantissa exponent places
  withPoint l (ds.take 1) (ds.drop 1) ++ exponentText 'e' 2 power

private def dropZeros (cs : List Char) : List Char := (cs.reverse.dropWhile (· = '0')).reverse

/-- The shorter of the two forms, without zeros at the end unless they are asked for. -/
private def general (l : Layout) (mantissa : Nat) (exponent : Int) (precision : Nat) : List Char :=
  let places := precision - 1
  let (power, ds) := normalized mantissa exponent places
  let trim (cs : List Char) := if l.alternate then cs else dropZeros cs
  if -4 ≤ power ∧ power < precision then
    let behind := (places - power).toNat
    let all := zeroPadded (behind + 1) (timesTen mantissa exponent behind)
    withPoint l (all.take (all.length - behind)) (trim (all.drop (all.length - behind)))
  else withPoint l (ds.take 1) (trim (ds.drop 1)) ++ exponentText 'e' 2 power

/-- A number in base sixteen. The first digit holds `lead` bits of the format, the others four. -/
private def hexadecimal (f : BinaryFormat) (l : Layout) (mantissa : Nat) (exponent : Int) :
    List Char :=
  let lead := (f.bits - 1) % 4 + 1
  let behind := (f.bits - lead) / 4
  -- the mantissa with all the bits of the format, unless the number is too small for that
  let up := min (f.bits - bitLength mantissa) (exponent - f.least).toNat
  let full := if mantissa = 0 then 0 else mantissa <<< up
  let power : Int := if mantissa = 0 then 0 else exponent - up + 4 * behind
  let (value, places) :=
    match l.precision with
    | some p =>
      if p < behind then (roundQuotient full (Nat.shiftLeft 1 (4 * (behind - p))), p)
      else (full <<< (4 * (p - behind)), p)
    | none => (full, behind)
  let ds := Nat.toDigits 16 value
  let ds := List.replicate (places + 1 - ds.length) '0' ++ ds
  let (ds, power) :=
    if places + 1 < ds.length then (ds.take (places + 1), power + 4) else (ds, power)
  let tail := if l.precision.isSome then ds.drop 1 else dropZeros (ds.drop 1)
  withPoint l (ds.take 1) tail ++ exponentText 'p' 1 power

/-- The conversions of a number. -/
inductive Form where
  | fixed | scientific | general | hexadecimal
  deriving DecidableEq, Repr

/-- A number of a format as text. -/
def render (f : BinaryFormat) (form : Form) (upper : Bool) (l : Layout) (x : Binary) : List Char :=
  let raise (cs : List Char) := if upper then cs.map Char.toUpper else cs
  match x with
  | .infinite negative => l.number false (l.sign negative) (raise ['i', 'n', 'f'])
  | .undefined negative => l.number false (l.sign negative) (raise ['n', 'a', 'n'])
  | .finite negative mantissa exponent =>
    let precision := l.precision.getD 6
    let (front, body) :=
      match form with
      | .fixed => ([], fixed l mantissa exponent precision)
      | .scientific => ([], scientific l mantissa exponent precision)
      | .general => ([], general l mantissa exponent (max precision 1))
      | .hexadecimal => (['0', 'x'], hexadecimal f l mantissa exponent)
    l.number true (l.sign negative ++ raise front) (raise body)

end Binary

end Handoff.Number

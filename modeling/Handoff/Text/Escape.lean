import Handoff.Bytes

/-!
Backslash escapes in the text of a shell's `echo` and `printf`.

A backslash and a letter stand for a control character, a backslash and octal digits for the byte
of that number. Texts are read one character a byte.
-/

namespace Handoff.Text

/-- Which octal escapes there are. -/
inductive OctalForm where
  /-- A zero and up to three digits. -/
  | afterZero
  /-- Up to three digits. -/
  | bare
  /-- Both of these. -/
  | either
  deriving DecidableEq, Repr

def isOctalDigit (c : Char) : Bool := '0' ≤ c && c ≤ '7'

/-- The character that a letter stands for after a backslash. -/
def letterEscape? : Char → Option Char
  | '\\' => some '\\'
  | 'a' => some '\x07'
  | 'b' => some '\x08'
  | 'f' => some '\x0c'
  | 'n' => some '\n'
  | 'r' => some '\r'
  | 't' => some '\t'
  | 'v' => some '\x0b'
  | _ => none

/-- The octal digits at the head of a text, at most three of them. -/
def octalDigits (cs : List Char) : List Char := (cs.take 3).takeWhile isOctalDigit

def octalValue (digits : List Char) : Nat :=
  digits.foldl (fun n c => n * 8 + (c.toNat - '0'.toNat)) 0

/-- The byte of a number, which loses what does not fit. -/
def octet (n : Nat) : Char := Char.ofNat (n % 256)

/-- An escape after its backslash: what it stands for, and how many characters it takes. -/
def escape? (form : OctalForm) : List Char → Option (Char × Nat)
  | [] => none
  | c :: cs =>
    if c = '0' ∧ form ≠ .bare then
      some (octet (octalValue (octalDigits cs)), 1 + (octalDigits cs).length)
    else if isOctalDigit c ∧ form ≠ .afterZero then
      some (octet (octalValue (octalDigits (c :: cs))), (octalDigits (c :: cs)).length)
    else (letterEscape? c).map (·, 1)

/-- A text with its escapes resolved, and whether a `\c` cut it short. -/
def unescape (form : OctalForm) : List Char → List Char × Bool
  | [] => ([], false)
  | '\\' :: cs =>
    if cs.head? = some 'c' then ([], true)
    else
      match escape? form cs with
      | some (c, n) =>
        let (rest, cutShort) := unescape form (cs.drop n)
        (c :: rest, cutShort)
      | none =>
        let (rest, cutShort) := unescape form cs
        ('\\' :: rest, cutShort)
  | c :: cs =>
    let (rest, cutShort) := unescape form cs
    (c :: rest, cutShort)
termination_by cs => cs.length
decreasing_by all_goals (simp only [List.length_drop, List.length_cons]; omega)

end Handoff.Text

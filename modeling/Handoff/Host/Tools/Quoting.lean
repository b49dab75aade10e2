import Handoff.Bytes.Octets

/-!
Names and arguments as the tools show them in their messages.

There are two ways. `Quoting.marked` always puts quotes around a text and escapes with
backslashes. `Quoting.shell` writes a text so that a shell reads it back: bare if that is safe,
else between quotes, with bytes that cannot be shown between `$'` and `'`.
-/

namespace Handoff.Host.Quoting

/-- Whether a byte can be shown as it is. -/
def isPrintable (c : Char) : Bool := ' ' ≤ c && c ≤ '~'

/-- The letter that stands for a byte behind a backslash. -/
def letter? : Char → Option Char
  | '\x07' => some 'a'
  | '\x08' => some 'b'
  | '\x0c' => some 'f'
  | '\n' => some 'n'
  | '\r' => some 'r'
  | '\t' => some 't'
  | '\x0b' => some 'v'
  | _ => none

private def octalDigit (n : Nat) : Char := Char.ofNat ('0'.toNat + n % 8)

/-- A byte behind a backslash: as a letter if it has one, else by its number in base eight. -/
def escape (c : Char) : List Char :=
  match letter? c with
  | some l => ['\\', l]
  | none => ['\\', octalDigit (c.toNat / 64), octalDigit (c.toNat / 8), octalDigit c.toNat]

/-- A text between quotes, with backslashes in front of quotes and of themselves. -/
def marked (text : List Char) : List Char :=
  '\'' :: text.flatMap shown ++ ['\'']
where
  shown (c : Char) : List Char :=
    if c = '\'' ∨ c = '\\' then ['\\', c] else if isPrintable c then [c] else escape c

/-- What a shell would take for something else than a plain character. -/
def isSpecial (c : Char) : Bool :=
  ['\\', '?', ' ', '!', '"', '$', '&', '(', ')', '*', ';', '<', '=', '>', '[', '^', '\x60', '|',
    '\''].contains c || !isPrintable c

/-- Characters that are special at the start of a word. -/
def isSpecialFirst (c : Char) : Bool := c = '#' || c = '~'

/-- Whether a text means itself to a shell. -/
def isSafe (text : List Char) : Bool :=
  match text with
  | [] => false
  | [c] => !isSpecial c && !isSpecialFirst c && c ≠ '\x7b' && c ≠ '\x7d'
  | c :: _ => !isSpecialFirst c && text.all (!isSpecial ·)

/-- Whether double quotes do for a text: nothing in it is special between them. -/
def suitsDoubleQuotes (text : List Char) : Bool :=
  text.zipIdx.all fun (c, i) =>
    c = ' ' || c = '\'' ||
      if c = '#' || c = '~' then i = 0
      else if c = '\x7b' || c = '\x7d' then text.length = 1
      else !isSpecial c

/-- The inside of a text between quotes. `escaped` says that the text before ended between `$'`
and `'`, from where it is gone on with. -/
def shellInside (escaped : Bool) : List Char → List Char
  | [] => []
  | c :: cs =>
    if c = '\'' then ['\'', '\\', '\'', '\''] ++ shellInside false cs
    else if isPrintable c then
      (if escaped then ['\'', '\''] else []) ++ c :: shellInside false cs
    else
      (if escaped then [] else ['\'', '$', '\'']) ++ escape c ++ shellInside true cs

/-- A text between quotes that a shell reads back. -/
def shellQuoted (text : List Char) : List Char :=
  if text.contains '\'' ∧ suitsDoubleQuotes text then '"' :: text ++ ['"']
  else '\'' :: shellInside false text ++ ['\'']

/-- A text as a shell reads it back, without quotes where that is safe. -/
def shell (text : List Char) : List Char := if isSafe text then text else shellQuoted text

/-- The name of a file in front of a colon; a colon in it asks for quotes as well. -/
def name (text : List Char) : List Char :=
  if isSafe text ∧ ¬text.contains ':' then text else shellQuoted text

example : shell ['a', ' ', 'b'] = ['\'', 'a', ' ', 'b', '\''] := by decide

example : shell ['\'', 's'] = ['"', '\'', 's', '"'] := by decide

end Handoff.Host.Quoting

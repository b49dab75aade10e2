import Handoff.Text.DefaultIgnorable
import Handoff.Text.GraphemeExtend
import Handoff.Text.Unprintable
import Handoff.Utf8

/-!
Quoted text on one line.

A quoted text stands between double quotes, and each of its characters is either shown or
escaped. What would not be seen, would break the line or would only alter the character before it
is escaped, and so are the quote and the backslash, so a reader can tell where the text ends and
what it is. Bytes that encode no character are written in hexadecimal.

`Quoted.Style` holds what differs between the two places where quoted text is written, and which of
the characters beyond ASCII are shown. That is a table which grows with Unicode; `Quoted.isVisible`
is the one in use.
-/

namespace Handoff.Quoted

open Handoff.Utf8 (Segment)

/-- How a character without a short escape is written if it may not be shown. -/
inductive ControlForm where
  /-- Its code point in braces, without leading zeros. -/
  | braced
  /-- Two digits, as for a byte. -/
  | twoDigits
  deriving DecidableEq, Repr

structure Style where
  escapesApostrophe : Bool
  /-- The form of the ASCII control characters; all others are braced. -/
  control : ControlForm
  /-- Whether a character beyond ASCII is shown. -/
  visible : Char → Bool

/-- Whether a character beyond ASCII leaves a trace of its own where it is shown. -/
def isVisible (c : Char) : Bool :=
  !(Text.graphemeExtendRanges.contains c || Text.defaultIgnorableRanges.contains c ||
    Text.unprintableRanges.contains c)

/-- The style of arguments. -/
def Style.plainWith (visible : Char → Bool) : Style := ⟨false, .braced, visible⟩

/-- The style of the program at the head of a command line. -/
def Style.strictWith (visible : Char → Bool) : Style := ⟨true, .twoDigits, visible⟩

/-- The style of settings and of error messages. -/
def Style.plain : Style := .plainWith isVisible

/-- Whether a character may be shown as itself, given whether one beyond ASCII may. -/
def isShownWith (visible : Char → Bool) (c : Char) : Bool :=
  if c.toNat < 0x80 then 0x20 ≤ c.toNat && c.toNat < 0x7f else visible c

/-- Whether a character may be shown as itself. -/
def isShown (c : Char) : Bool := isShownWith isVisible c

/-- The hexadecimal digits of a number, in lower case. -/
def hexDigits (n : Nat) : List Char := Nat.toDigits 16 n

/-- The two hexadecimal digits of a number below 256. -/
def hexPair (n : Nat) : List Char := [Nat.digitChar (n / 16 % 16), Nat.digitChar (n % 16)]

def braced (c : Char) : List Char := ['\\', 'u', '\x7b'] ++ hexDigits c.toNat ++ ['\x7d']

def twoDigits (n : Nat) : List Char := '\\' :: 'x' :: hexPair n

/-- The escape of a character that may not be shown and has no short one. -/
def Style.controlEscape (style : Style) (c : Char) : List Char :=
  match style.control with
  | .braced => braced c
  | .twoDigits => if c.toNat < 0x80 then twoDigits c.toNat else braced c

/-- One character between the quotes. -/
def Style.char (style : Style) (c : Char) : List Char :=
  if c = '"' then ['\\', '"']
  else if c = '\\' then ['\\', '\\']
  else if c = '\t' then ['\\', 't']
  else if c = '\n' then ['\\', 'n']
  else if c = '\r' then ['\\', 'r']
  else if c = '\x00' ∧ style.control = .braced then ['\\', '0']
  else if c = '\'' ∧ style.escapesApostrophe = true then ['\\', '\'']
  else if isShownWith style.visible c then [c]
  else style.controlEscape c

/-- A byte that belongs to no character, in upper case so that it is told from a character. -/
def byte (b : UInt8) : List Char := '\\' :: 'x' :: (hexPair b.toNat).map Char.toUpper

def Style.segment (style : Style) : Segment → List Char
  | .char c => style.char c
  | .malformed bytes => bytes.flatMap byte

/-- A text in quotes. -/
def Style.text (style : Style) (cs : List Char) : List Char :=
  '"' :: cs.flatMap style.char ++ ['"']

/-- A byte string in quotes. -/
def Style.bytes (style : Style) (bytes : Bytes) : List Char :=
  '"' :: (Utf8.segments bytes).flatMap style.segment ++ ['"']

/-- A string in quotes, in the plain style. -/
def stringIn (visible : Char → Bool) (s : String) : String :=
  String.ofList ((Style.plainWith visible).text s.toList)

/-- A string in quotes, in the plain style that is in use. -/
def string (s : String) : String := stringIn isVisible s

end Handoff.Quoted

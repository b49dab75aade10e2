import Handoff.Bytes.Octets

/-!
The characters of shell words.

A character that was quoted must not be taken for an operator of a pattern later on, so a word is
made of glyphs, which remember. Only the characters that could be mistaken are guarded. The marks
of double and single quotes stay in a word until its fields are cut: they are what keeps an empty
quoted word from vanishing. `Glyph.textOf` forgets all of this; `Glyph.patternOf` turns guards into
backslashes.
-/

namespace Handoff.Shell

/-- A text in which each character stands for a byte. -/
abbrev Text := List Char

/-- Whether a text stands in front of another in listings, or is the same. -/
def Text.isBefore : Text → Text → Bool
  | [], _ => true
  | _ :: _, [] => false
  | a :: as, b :: bs => if a = b then isBefore as bs else a.toNat < b.toNat

inductive Glyph where
  | plain (c : Char)
  /-- A character that stands for itself. -/
  | guarded (c : Char)
  /-- Where a quote opens or ends. -/
  | mark
  deriving DecidableEq, Repr

/-- How a stretch of a word is quoted. -/
inductive Style where
  | bare | double | single
  /-- The inside of an arithmetic expansion. -/
  | arithmetic
  deriving DecidableEq, Repr

namespace Style

/-- Bytes that are guarded wherever they stand. -/
def isReserved (c : Char) : Bool := '\x81' ≤ c && c ≤ '\x88'

/-- What would be an operator in a pattern or the start of a home folder. -/
def isOperator (c : Char) : Bool := ['!', '*', '?', '[', '=', '~', ':', '/', '-', ']'].contains c

/-- Whether a character of a script is guarded where it stands for itself. -/
def guards (style : Style) (c : Char) : Bool :=
  isReserved c ||
    match style with
    | bare | arithmetic => false
    | double => isOperator c
    | single => isOperator c || c = '\\'

end Style

namespace Glyph

/-- The glyphs of a text that all stand for themselves as far as nothing is made of them. -/
def plains (text : Text) : List Glyph := text.map .plain

/-- The text of some glyphs. -/
def textOf : List Glyph → Text
  | [] => []
  | .plain c :: gs | .guarded c :: gs => c :: textOf gs
  | .mark :: gs => textOf gs

/-- The pattern that some glyphs make. A guard becomes a backslash. A backslash that came from a
value counts as one as well: what stands behind it needs no other, except between quotes, where it
was meant literally. -/
def patternFrom (isQuoted isEscaped : Bool) : List Glyph → Text
  | [] => []
  | .mark :: gs => patternFrom (!isQuoted) isEscaped gs
  | .plain '\\' :: gs => '\\' :: patternFrom isQuoted (!isEscaped) gs
  | .plain c :: gs => c :: patternFrom isQuoted false gs
  | .guarded c :: gs =>
    (if !isEscaped then ['\\'] else if isQuoted then ['\\', '\\'] else []) ++
      c :: patternFrom isQuoted false gs

def patternOf (gs : List Glyph) : Text := patternFrom false false gs

/-- How the glyphs of a value come into a word. -/
def ofValue (isQuoted : Bool) (text : Text) : List Glyph :=
  text.map fun c =>
    if Style.isReserved c ∨ isQuoted ∧ (Style.isOperator c ∨ c = '\\') then .guarded c else .plain c

end Glyph

end Handoff.Shell

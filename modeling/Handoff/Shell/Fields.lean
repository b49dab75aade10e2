import Handoff.Shell.Glyph

/-!
Cutting an expanded word into fields.

An expanded word is a list of spans. Only what expansions have put in without quotes is cut at the
separators; quoted arguments are cut between one another. Separators that are blanks vanish at
both ends of a field, any other separator ends exactly one field, and blanks around it belong to
it. A NUL stands between arguments, and counts as a blank where words are cut at separators.
-/

namespace Handoff.Shell

inductive Span where
  /-- What stays together. -/
  | fixed (glyphs : List Glyph)
  /-- What is cut at separators. -/
  | split (glyphs : List Glyph)
  /-- Arguments between quotes, with a NUL between each two. -/
  | separate (glyphs : List Glyph)
  deriving DecidableEq, Repr

namespace Span

def glyphs : Span → List Glyph
  | fixed gs | split gs | separate gs => gs

/-- The text of an expanded word. -/
def textOf (spans : List Span) : Text := spans.flatMap fun span => Glyph.textOf span.glyphs

end Span

namespace Glyph

def char? : Glyph → Option Char
  | plain c | guarded c => some c
  | mark => none

end Glyph

/-- How far a word has been cut. -/
structure Cutting where
  /-- The fields that are complete, the last one first. -/
  fields : List (List Glyph)
  /-- The field that is being read, the last glyph first. -/
  current : List Glyph
  /-- Whether blanks that ended a field are being passed over. -/
  inGap : Bool
  /-- Whether the last span was one of separate arguments. -/
  isSeparate : Bool
  /-- How many fields may still be read; the last one takes all that is left. -/
  left : Option Nat
  /-- The length that the last field is cut back to if nothing but blanks follows. -/
  cutAt : Option Nat
  deriving DecidableEq, Repr

namespace Cutting

def start (limit : Option Nat) : Cutting := ⟨[], [], false, false, limit, none⟩

private def isBlank (c : Char) : Bool := c = ' ' || c = '\t' || c = '\n' || c = '\x00'

def push (k : Cutting) (g : Glyph) : Cutting := { k with current := g :: k.current }

/-- A glyph of the last field, which takes everything. -/
private def pushLast (isSeparator isBlank : Bool) (k : Cutting) (g : Glyph) : Cutting :=
  if isBlank then { k.push g with cutAt := some (k.cutAt.getD k.current.length) }
  else
    { k.push g with
      cutAt := if isSeparator && k.inGap then k.cutAt else none
      inGap := false }

/-- A separator where no blanks are being passed over. `ownGap` says that it begins a gap. -/
private def separate (ownGap : Bool) (k : Cutting) (g : Glyph) : Cutting :=
  if k.current = [] ∧ ownGap then { k with inGap := false }
  else
    match k.left with
    | some 1 => { k.push g with left := some 0, cutAt := some k.current.length, inGap := ownGap }
    | left =>
      { k with
        fields := k.current.reverse :: k.fields
        current := []
        inGap := ownGap
        left := left.map (· - 1) }

/-- Reads a glyph that may be a separator. `isQuiet` says that separators begin no gaps. -/
def read (separators : Text) (isQuiet : Bool) (k : Cutting) (g : Glyph) : Cutting :=
  match g.char? with
  | none => k.push g
  | some c =>
    let isSeparator := c = '\x00' || separators.contains c
    let isGap := isSeparator && isBlank c
    if k.left = some 0 then k.pushLast isSeparator isGap g
    else if k.inGap then
      if isGap then k
      else if isSeparator then { k with current := [], inGap := false }
      else { k with current := [g], inGap := false }
    else if isSeparator then k.separate (isGap && !isQuiet) g
    else k.push g

/-- Reads a span. -/
def readSpan (separators : Text) (k : Cutting) : Span → Cutting
  | .fixed gs => gs.foldl push k
  | .split gs =>
    let k := { k with inGap := false, isSeparate := false }
    gs.foldl (read separators k.isSeparate) k
  | .separate gs =>
    let k := { k with inGap := false, isSeparate := true }
    gs.foldl (read [] true) k

/-- The fields of spans. -/
def finish (k : Cutting) : List (List Glyph) :=
  let last := k.current.reverse
  let last :=
    match k.cutAt with
    | some n => if k.isSeparate then last else last.take n
    | none => last
  (if k.isSeparate || last ≠ [] then last :: k.fields else k.fields).reverse

end Cutting

/-- The fields of an expanded word, of which there are no more than a limit. -/
def cutFields (separators : Text) (limit : Option Nat) (spans : List Span) : List (List Glyph) :=
  (spans.foldl (Cutting.readSpan separators) (.start limit)).finish

end Handoff.Shell

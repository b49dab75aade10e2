import Handoff.Shell.Glyph

/-!
The characters of a script that are still to be read.

An alias puts its replacement in front of what is left, in a layer of its own. As long as a layer
is being read, and until the next character behind it is asked for, its alias is not replaced
again. `Source.next` reads a character, `Source.push` puts an alias in front.
-/

namespace Handoff.Shell

/-- The replacement of an alias that is being read. -/
structure Layer where
  word : String
  /-- Whether it ends in a blank, which has the next word looked up as well. -/
  endsBlank : Bool
  /-- What is read after it. -/
  outer : Text
  deriving DecidableEq, Repr

structure Source where
  /-- The rest of the innermost layer, or of the line if there is none. -/
  text : Text
  layers : List Layer
  /-- The lines behind that line. -/
  rest : Text
  /-- The lines that have been begun, the last one first. -/
  seen : List Text
  /-- The number of the line. -/
  line : Nat
  /-- Aliases whose layers have ended, but which are not free yet. -/
  releasing : List String
  deriving DecidableEq, Repr

namespace Source

def ofText (text : Text) : Source := ⟨[], [], text, [], 1, []⟩

/-- A source that bytes come from; a NUL is no part of a script. -/
def ofBytes (bytes : Bytes) : Source := ofText (bytes.octets.filter (· ≠ '\x00'))

/-- The first line of a text, with its end. -/
def firstLine (text : Text) : Text :=
  let line := text.takeWhile (· ≠ '\n')
  if line.length < text.length then line ++ ['\n'] else line

/-- Whether an alias is being replaced. -/
def isInUse (s : Source) (word : String) : Bool :=
  s.layers.any (·.word = word) || s.releasing.contains word

/-- Begins the next line. -/
def nextLine (s : Source) : Source :=
  let line := firstLine s.rest
  { s with text := line, rest := s.rest.drop line.length, seen := line :: s.seen }

/-- Leaves the layers that have ended; says whether one of them ended in a blank. -/
def leaveLayers (s : Source) : List Layer → Bool × Source
  | [] => (false, { s with layers := [] })
  | layer :: layers =>
    let s := { s with text := layer.outer, layers, releasing := layer.word :: s.releasing }
    if layer.outer = [] then
      let (blank, s) := s.leaveLayers layers
      (blank || layer.endsBlank, s)
    else (layer.endsBlank, s)

/-- The next character, if there is one, and whether an alias that ends in a blank ended in front
of it. -/
def next (s : Source) : Option Char × Bool × Source :=
  let s := { s with releasing := [] }
  match s.text with
  | c :: cs => (some c, false, { s with text := cs })
  | [] =>
    let (blank, s) := s.leaveLayers s.layers
    let s := if s.text = [] ∧ s.rest ≠ [] then s.nextLine else s
    match s.text with
    | c :: cs => (some c, blank, { s with text := cs })
    | [] => (none, blank, s)

/-- Puts characters back in front. -/
def putBack (s : Source) (text : Text) : Source := { s with text := text ++ s.text }

/-- Puts the replacement of an alias in front. -/
def push (s : Source) (word : String) (replacement : Text) : Source :=
  let endsBlank := replacement.getLast? = some ' ' || replacement.getLast? = some '\t'
  { s with text := replacement, layers := ⟨word, endsBlank, s.text⟩ :: s.layers }

end Source

end Handoff.Shell

import Handoff.Log.Directive

/-!
The log filter: which of the program's events are shown.

A filter is read off a text of directives parted by commas. An event is judged by the directive
about it that goes before all others, and of two that are for the same target and the same field by
the later one. A filter without any directive shows errors only; one whose directives are all about
something else shows nothing.
-/

namespace Handoff.Log

structure Filter where
  directives : List Directive
  deriving DecidableEq, Repr

namespace Filter

/-- The filter that shows warnings, whatever they are about. -/
def default : Filter := ⟨[⟨none, none, none, .warn⟩]⟩

instance : Inhabited Filter := ⟨default⟩

/-- The parts of a text between its commas. -/
def split : List Char → List (List Char)
  | [] => [[]]
  | c :: cs =>
    if c = ',' then [] :: split cs
    else
      match split cs with
      | [] => [[c]]
      | piece :: pieces => (c :: piece) :: pieces

/-- The parts of a text between its commas that are not empty. -/
def pieces (cs : List Char) : List (List Char) := (split cs).filter (!·.isEmpty)

/-- Reads a filter. The first piece that gives no directive decides how this fails. -/
def ofText (readable : List Char → Bool) (text : String) : Except FilterFault Filter := do
  return ⟨← (pieces text.toList).mapM (Directive.ofPiece readable)⟩

/-- What is left of a piece if it may be invalid; none if the reading of it is broken off. -/
def lenientPiece? (readable : List Char → Bool) (piece : List Char) : Option (List Directive) :=
  match Directive.ofPiece readable piece with
  | .ok directive => some [directive]
  | .error .invalid => some []
  | .error .aborted => none

/-- Reads a filter and leaves out the pieces that are invalid. -/
def ofTextLenient? (readable : List Char → Bool) (text : String) : Option Filter :=
  ((pieces text.toList).mapM (lenientPiece? readable)).map fun directives => ⟨directives.flatten⟩

/-- Of two directives the one that goes before the other, and the later one if neither does. -/
def preferred (best : Option Directive) (d : Directive) : Option Directive :=
  match best with
  | none => some d
  | some b => if b.outranks d then some b else some d

/-- The directive that judges an event. -/
def governing? (filter : Filter) (event : Metadata) : Option Directive :=
  (filter.directives.filter (·.concerns event)).foldl preferred none

/-- The level for an event. -/
def level (filter : Filter) (event : Metadata) : Level :=
  if filter.directives.isEmpty then .error
  else ((filter.governing? event).map Directive.level).getD .off

/-- Whether an event is shown. -/
def shows (filter : Filter) (event : Metadata) : Bool :=
  (filter.level event).admits event.severity

end Filter

end Handoff.Log

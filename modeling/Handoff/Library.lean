import Handoff.Environment
import Handoff.Log.Filter
import Handoff.Log.Layout
import Handoff.Settings

/-!
What the program leaves to libraries: the reading of its log filter, the judgment of events by it,
the layout of the log, whether errors are coloured, and which characters are shown in quoted text.

`Library` holds what the program asks of them, so that a law of the program can be stated for
whatever libraries there are. `Library.reading` is the one that goes by the grammar of directives;
a law that depends on that grammar asks for a library that agrees with it
(`Library.ReadsDirectives`).
-/

namespace Handoff

/-- What an environment has to say about colours. -/
structure ColourSettings where
  /-- Asks for colours everywhere, if it is not zero. -/
  forced : Option String
  /-- Forbids colours, whatever it is. -/
  forbidden : Option String
  /-- Declines colours, if it is zero. -/
  allowed : Option String
  deriving DecidableEq, Repr

namespace ColourSettings

def ofEnvironment (env : Environment) : ColourSettings :=
  ⟨env.text? "CLICOLOR_FORCE", env.text? "NO_COLOR", env.text? "CLICOLOR"⟩

/-- Whether errors are coloured, given whether a terminal shows the standard output. -/
def colours (settings : ColourSettings) (isTerminal : Bool) : Bool :=
  if settings.forced.any (· ≠ "0") then true
  else if settings.forbidden.isSome then false
  else settings.allowed.all (· ≠ "0") && isTerminal

/-- Setting another variable leaves the colours as they were. -/
theorem ofEnvironment_assign {env : Environment} {name : String} {value : Bytes}
    (h : name ∉ ["CLICOLOR_FORCE", "NO_COLOR", "CLICOLOR"]) :
    ofEnvironment (env.assign name value) = ofEnvironment env := by
  have htext (other : String) (hother : other ∈ ["CLICOLOR_FORCE", "NO_COLOR", "CLICOLOR"]) :
      (env.assign name value).text? other = env.text? other :=
    Environment.text?_congr (Environment.value?_assign_of_ne (ne_of_mem_of_not_mem hother h))
  rw [ofEnvironment, ofEnvironment, htext, htext, htext] <;> decide

end ColourSettings

structure Library where
  /-- Reads a log filter. -/
  filter : String → Except Log.FilterFault Log.Judge
  /-- Reads a log filter and leaves out of it what is invalid; none if that breaks the program
  off. -/
  lenientFilter : String → Option Log.Judge
  /-- Whether errors are coloured, given whether a terminal shows the standard output. -/
  colours : ColourSettings → Bool → Bool
  /-- How lines of the log are laid out, given whether a terminal shows them. -/
  layout : Bool → Log.Layout
  /-- Whether a character beyond ASCII is shown in quoted text. -/
  visible : Char → Bool

namespace Library

/-- The judge of a run, given the text of its log filter: the one for the default filter if the
text is invalid, and none if the reading is broken off. -/
def judge? (library : Library) (text : String) : Option Log.Judge :=
  match library.filter text with
  | .ok judge => some judge
  | .error .invalid => library.lenientFilter Settings.defaultLogFilter
  | .error .aborted => none

/-- The library that reads filters by the grammar of directives. -/
def reading (readable : List Char → Bool) : Library where
  filter text := (Log.Filter.ofText readable text).map Log.Filter.shows
  lenientFilter text := (Log.Filter.ofTextLenient? readable text).map Log.Filter.shows
  colours := ColourSettings.colours
  layout := Log.Layout.standard
  visible := Quoted.isVisible

/-- The library that can read any value of a field. -/
def standard : Library := reading fun _ => true

/-- Whether a library reads filters by the grammar of directives and judges events by them. -/
structure ReadsDirectives (library : Library) (readable : List Char → Bool) : Prop where
  filter : ∀ text, library.filter text = (Log.Filter.ofText readable text).map Log.Filter.shows
  default : library.lenientFilter Settings.defaultLogFilter = some Log.Filter.default.shows

theorem judge?_of_ok {library : Library} {text : String} {judge : Log.Judge}
    (h : library.filter text = .ok judge) : library.judge? text = some judge := by rw [judge?, h]

theorem standard_readsDirectives : standard.ReadsDirectives fun _ => true := ⟨fun _ => rfl, rfl⟩

end Library

end Handoff

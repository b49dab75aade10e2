import Handoff.Shell.Glyph

/-!
What a script is made of.

A word is a list of parts: glyphs and expansions. A command may contain words, which may contain
commands. `Command.nothing` stands where a list of commands is empty. Commands that can say on
which line they began keep its number. The text of a here-document is found by an index, since it
is read only after the command it belongs to.
-/

namespace Handoff.Shell

/-- What becomes of the value of a parameter. -/
inductive Use where
  | value
  | length
  /-- Another word in place of a value that is not set. -/
  | fallback
  /-- Another word in place of one that is. -/
  | alternative
  /-- The value must be set. -/
  | demand
  /-- A value that is not set is set first. -/
  | assign
  /-- The value without an end that matches a pattern. -/
  | cutEnd (longest : Bool)
  | cutStart (longest : Bool)
  /-- What cannot be understood. -/
  | bad
  deriving DecidableEq, Repr

/-- What a redirection opens a file for. -/
inductive Access where
  | read
  | write
  /-- To write even where a file must not be overwritten. -/
  | force
  | append
  | update
  deriving DecidableEq, Repr

mutual

inductive Part where
  | glyph (glyph : Glyph)
  /-- A parameter; after a colon an empty value counts as none. -/
  | parameter (name : Text) (use : Use) (colon : Bool) (word : List Part)
  /-- What a command puts out. -/
  | output (command : Command)
  | arithmetic (expression : List Part)

inductive Redirection where
  | file (fd : Nat) (access : Access) (target : List Part)
  /-- Has a descriptor lead to where another one does. -/
  | copy (fd : Nat) (source : List Part)
  | document (fd index : Nat)

inductive Command where
  | nothing
  | simple (line : Nat) (assignments words : List (List Part)) (redirections : List Redirection)
  | pipeline (commands : List Command) (inBackground : Bool)
  | redirected (line : Nat) (body : Command) (redirections : List Redirection)
  | subshell (line : Nat) (body : Command) (redirections : List Redirection)
  | background (line : Nat) (body : Command) (redirections : List Redirection)
  | both (first second : Command)
  | either (first second : Command)
  | sequence (commands : List Command)
  | negated (body : Command)
  | conditional (test body otherwise : Command)
  | loop (isUntil : Bool) (test body : Command)
  | each (line : Nat) (name : String) (words : List (List Part)) (body : Command)
  | choice (line : Nat) (word : List Part) (cases : List Case)
  | define (name : String) (body : Command)

/-- Patterns with the command that is run for them. -/
inductive Case where
  | on (patterns : List (List Part)) (body : Command)

end

abbrev Word := List Part

instance : Inhabited Command := ⟨.nothing⟩

namespace Command

def isNothing : Command → Bool
  | nothing => true
  | _ => false

end Command

namespace Word

/-- The parameter that stands for all arguments, each a field of its own. -/
def allArgs : Part := .parameter ['@'] .value false []

/-- All arguments between quotes. -/
def quotedArgs : Word := [.glyph .mark, allArgs, .glyph .mark]

/-- The glyphs of a word without its expansions. -/
def glyphs (word : Word) : List Glyph :=
  word.filterMap fun
    | .glyph g => some g
    | _ => none

/-- The text of a word that is made of plain glyphs alone. -/
def plainText? : Word → Option Text
  | [] => some []
  | .glyph (.plain c) :: parts => (plainText? parts).map (c :: ·)
  | _ => none

end Word

/-! ### Names -/

/-- Whether a character may begin a name. -/
def startsName (c : Char) : Bool := c.isAlpha || c = '_'

/-- Whether a character may be in a name. -/
def isNameChar (c : Char) : Bool := c.isAlphanum || c = '_'

/-- Whether a text is a name. -/
def isName : Text → Bool
  | [] => false
  | c :: cs => startsName c && cs.all isNameChar

/-- The commands of the shell with a special standing: no function can have their names, and
misusing one of them ends a script. -/
def specialNames : List String :=
  [".", ":", "break", "continue", "eval", "exec", "exit", "export", "readonly", "return", "set",
   "shift", "times", "trap", "unset", "local"]

/-- The name in front of the equals sign of an assignment. -/
def assignedName? (text : Text) : Option Text :=
  let name := text.takeWhile isNameChar
  if isName name ∧ (text.drop name.length).head? = some '=' then some name else none

/-- Whether a word has the form of an assignment. -/
def Word.isAssignment (word : Word) : Bool :=
  let start := word.map fun
    | .glyph (.plain c) => c
    | _ => '\x00'
  (assignedName? start).isSome

end Handoff.Shell

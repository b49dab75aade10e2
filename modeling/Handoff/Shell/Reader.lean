import Handoff.Shell.Source
import Handoff.Shell.Token

/-!
Reading a script.

A reader goes through its source token by token. It keeps the last token, which may be put back,
and the here-documents that have been announced and not yet read. A script that cannot be
understood is a `SyntaxFault`, with the number of the line that was reached.
-/

namespace Handoff.Shell

/-- What is to be made of the token that is read next. -/
structure Check where
  /-- Ends of lines in front of it are passed over. -/
  newlines : Bool
  /-- It may be a keyword. -/
  keywords : Bool
  /-- It may be an alias. -/
  aliases : Bool
  /-- It ends a here-document, so that nothing in it is expanded. -/
  isEndMark : Bool
  deriving DecidableEq, Repr

namespace Check

def none : Check := ⟨false, false, false, false⟩

/-- For a token that a command may begin with. -/
def command : Check := ⟨false, true, true, false⟩

/-- For such a token on the same line or a later one. -/
def laterCommand : Check := ⟨true, true, true, false⟩

end Check

/-- How a redirection begins; its word is read after it. -/
inductive Arrow where
  | file (fd : Nat) (access : Access)
  | copy (fd : Nat)
  | document (fd : Nat) (stripsTabs : Bool)
  deriving DecidableEq, Repr

/-- A here-document that has been announced. -/
structure Announced where
  index : Nat
  endMark : Text
  stripsTabs : Bool
  /-- Whether nothing in it is expanded. -/
  isQuoted : Bool
  deriving DecidableEq, Repr

/-- Why a script cannot be understood. -/
structure SyntaxFault where
  line : Nat
  message : String
  deriving DecidableEq, Repr

structure Reader where
  source : Source
  /-- The replacements of words at the start of commands. -/
  aliases : List (String × Text)
  check : Check
  token : Token
  /-- Whether the token is to be read once more. -/
  isBack : Bool
  /-- The word that was read last. -/
  word : Word
  isQuoted : Bool
  arrow : Arrow
  announced : List Announced
  /-- The texts of all here-documents, by their indices. -/
  documents : Array Word

/-- What reads a part of a script. -/
abbrev Read := ExceptT SyntaxFault (StateM Reader)

namespace Reader

def ofSource (source : Source) (aliases : List (String × Text)) (documents : Array Word) : Reader :=
  ⟨source, aliases, .none, .newline, false, [], false, .copy 0, [], documents⟩

end Reader

namespace Read

/-- How much of one thing is read in a row before a script is taken to be endless. -/
def patience : Nat := 1000000000

def fail {α : Type} (message : String) : Read α := do
  throw ⟨(← get).source.line, message⟩

def tooLong {α : Type} : Read α := fail "Too long"

/-- Complains about the last token. A complaint is cut to the length of a line. -/
def unexpected {α : Type} (expected : Option Token) : Read α := do
  let message := (← get).token.shown ++ " unexpected" ++
    match expected with
    | some token => " (expecting " ++ token.shown ++ ")"
    | none => ""
  fail (String.ofList (message.toList.take 63))

/-! ### Characters -/

/-- Reads a character; there is none at the end. -/
def next : Read (Option Char) := do
  let r ← get
  let (c, blank, source) := r.source.next
  set { r with
    source := source
    check := { r.check with aliases := r.check.aliases || blank } }
  return c

def putBackText (text : Text) : Read Unit := modify fun r =>
  { r with source := r.source.putBack text }

def putBack : Option Char → Read Unit
  | some c => putBackText [c]
  | none => pure ()

/-- Counts the end of a line. -/
def countLine : Read Unit := modify fun r =>
  { r with source := { r.source with line := r.source.line + 1 } }

/-- Reads a character behind line ends that a backslash stands in front of. -/
def nextJoinedWithin : Nat → Read (Option Char)
  | 0 => tooLong
  | fuel + 1 => do
    match ← next with
    | some '\\' =>
      match ← next with
      | some '\n' =>
        countLine
        nextJoinedWithin fuel
      | c =>
        putBack c
        return some '\\'
    | c => return c

def nextJoined : Read (Option Char) := nextJoinedWithin patience

/-- Reads on to the end of the line, which is left. -/
def skipCommentWithin : Nat → Read Unit
  | 0 => tooLong
  | fuel + 1 => do
    match ← next with
    | some '\n' => putBack (some '\n')
    | none => pure ()
    | some _ => skipCommentWithin fuel

def skipComment : Read Unit := skipCommentWithin patience

/-! ### Tokens -/

def setCheck (check : Check) : Read Unit := modify fun r => { r with check }

/-- Has the last token read once more. -/
def putBackToken : Read Unit := modify fun r => { r with isBack := true }

def setToken (token : Token) : Read Token := do
  modify fun r => { r with token }
  return token

/-- Gives a here-document its text. -/
def setDocument (index : Nat) (word : Word) : Read Unit := modify fun r =>
  { r with documents := r.documents.setIfInBounds index word }

/-- Runs something on another source, and comes back to this one whatever is left of the other. -/
def within {α : Type} (source : Source) (body : Read α) : Read α := do
  let outer := (← get).source
  modify fun r => { r with source }
  let result ← body
  modify fun r => { r with source := outer, isBack := false }
  return result

end Read

end Handoff.Shell

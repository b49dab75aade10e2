import Handoff.Shell.Words

/-!
Reading commands.

Each reader of this module reads one form of command. Commands inside of others are read by
`Inner`, and `Inner.ofDepth` ties the readers together for commands that are nested up to a depth.
`Reader.command` reads the next whole command of a script.
-/

namespace Handoff.Shell

namespace Read

/-! ### Tokens -/

/-- Reads the next token as it stands. -/
private def bareTokenWithin (inner : Inner) : Nat → Read Token
  | 0 => tooLong
  | fuel + 1 => do
    let either (second : Char) (one two : Token) : Read Token := do
      match ← nextJoined with
      | some c =>
        if c = second then setToken two
        else
          putBack (some c)
          setToken one
      | none => setToken one
    match ← nextJoined with
    | some ' ' | some '\t' => bareTokenWithin inner fuel
    | some '#' =>
      skipComment
      bareTokenWithin inner fuel
    | some '\n' =>
      countLine
      setToken .newline
    | none => setToken .endOfFile
    | some '&' => either '&' .ampersand .and
    | some '|' => either '|' .pipe .or
    | some ';' => either ';' .semicolon .endCase
    | some '(' => setToken .openParen
    | some ')' => setToken .closeParen
    | c => readWord inner c

private def bareToken (inner : Inner) : Read Token := do
  let r ← get
  if r.isBack then
    set { r with isBack := false }
    return r.token
  bareTokenWithin inner patience

private def skipNewlines (inner : Inner) : Nat → Token → Read Token
  | fuel + 1, .newline => do
    readDocuments inner
    skipNewlines inner fuel (← bareToken inner)
  | _, token => pure token

/-- The replacement of the last word, if it is an alias that is not being replaced. -/
private def alias? (r : Reader) (text : Text) : Option (String × Text) := do
  let name := String.ofList text
  let replacement ← r.aliases.lookup name
  if r.source.isInUse name then none else some (name, replacement)

private def tokenWithin (inner : Inner) : Nat → Check → Read Token
  | 0, _ => tooLong
  | fuel + 1, check => do
    let token ← bareToken inner
    let token ← if check.newlines then skipNewlines inner patience token else pure token
    let r ← get
    let check : Check :=
      { check with
        keywords := check.keywords || r.check.keywords
        aliases := check.aliases || r.check.aliases }
    set { r with check := .none }
    if token ≠ .word || r.isQuoted then return token
    let some text := r.word.plainText? | return token
    if check.keywords then
      if let some keyword := Keyword.ofText? text then return ← setToken (.keyword keyword)
    if check.aliases then
      if let some (name, replacement) := alias? r text then
        unless replacement = [] do
          modify fun r => { r with source := r.source.push name replacement }
        return ← tokenWithin inner fuel check
    return token

/-- Reads the next token as what the reader's check lets it be. -/
def readToken (inner : Inner) : Read Token := do tokenWithin inner patience (← get).check

/-- Reads a token that must be a certain one. -/
private def expect (inner : Inner) (token : Token) : Read Unit := do
  if (← readToken inner) ≠ token then unexpected (some token)

/-! ### Redirections and words -/

/-- Reads the word of a redirection. -/
private def readTarget (inner : Inner) : Read Redirection := do
  let arrow := (← get).arrow
  if arrow matches .document .. then setCheck { Check.none with isEndMark := true }
  if (← readToken inner) ≠ .word then unexpected none
  let r ← get
  match arrow with
  | .file fd access => return .file fd access r.word
  | .copy fd => return .copy fd r.word
  | .document fd stripsTabs =>
    let index := r.documents.size
    let document : Announced := ⟨index, Glyph.textOf r.word.glyphs, stripsTabs, r.isQuoted⟩
    set { r with documents := r.documents.push [], announced := r.announced ++ [document] }
    return .document fd index

/-- Reads words up to another token, which is the last one then. -/
private def readWords (inner : Inner) : Nat → List Word → Read (List Word)
  | 0, _ => tooLong
  | fuel + 1, before => do
    if (← readToken inner) = .word then readWords inner fuel ((← get).word :: before)
    else return before.reverse

private def readRedirectionsWithin (inner : Inner) :
    Nat → List Redirection → Read (List Redirection)
  | 0, _ => tooLong
  | fuel + 1, before => do
    if (← readToken inner) = .redirection then
      readRedirectionsWithin inner fuel ((← readTarget inner) :: before)
    else
      putBackToken
      return before.reverse

/-- Reads the redirections behind a command that is no simple one. -/
private def readRedirections (inner : Inner) : Read (List Redirection) := do
  setCheck .command
  readRedirectionsWithin inner patience []

/-! ### Compound commands -/

/-- Reads commands that must be there, up to a token that ends lists. -/
private def readBody (inner : Inner) : Read Command := do
  return (← inner.list .closed).getD .nothing

/-- Reads what follows the first branch of a condition. -/
private def readOtherwiseWithin (inner : Inner) : Nat → Read Command
  | 0 => tooLong
  | fuel + 1 => do
    match ← readToken inner with
    | .keyword .elif =>
      let test ← readBody inner
      expect inner (.keyword .then)
      let body ← readBody inner
      return .conditional test body (← readOtherwiseWithin inner fuel)
    | .keyword .else => readBody inner
    | _ =>
      putBackToken
      return .nothing

private def readConditional (inner : Inner) : Read Command := do
  let test ← readBody inner
  expect inner (.keyword .then)
  let body ← readBody inner
  let otherwise ← readOtherwiseWithin inner patience
  expect inner (.keyword .fi)
  return .conditional test body otherwise

private def readLoop (inner : Inner) (isUntil : Bool) : Read Command := do
  let test ← readBody inner
  expect inner (.keyword .do)
  let body ← readBody inner
  expect inner (.keyword .done)
  return .loop isUntil test body

private def readEach (inner : Inner) (line : Nat) : Read Command := do
  let token ← readToken inner
  let r ← get
  let name := (r.word.plainText?).getD []
  if token ≠ .word || r.isQuoted || !isName name then fail "Bad for loop variable"
  setCheck .laterCommand
  let words ←
    if (← readToken inner) = .keyword .in then
      let words ← readWords inner patience []
      if (← get).token ≠ .newline && (← get).token ≠ .semicolon then unexpected none
      pure words
    else
      if (← get).token ≠ .semicolon then putBackToken
      pure [Word.quotedArgs]
  setCheck .laterCommand
  expect inner (.keyword .do)
  let body ← readBody inner
  expect inner (.keyword .done)
  return .each line (String.ofList name) words body

/-- Reads the patterns of a case, of which the first has been read. What is no word stands for the
word in front of it. -/
private def readPatternsWithin (inner : Inner) : Nat → List Word → Read (List Word)
  | 0, _ => tooLong
  | fuel + 1, before => do
    let patterns := (← get).word :: before
    if (← readToken inner) = .pipe then
      discard (readToken inner)
      readPatternsWithin inner fuel patterns
    else
      if (← get).token ≠ .closeParen then unexpected (some .closeParen)
      return patterns.reverse

private def readCasesWithin (inner : Inner) : Nat → List Case → Read (List Case)
  | 0, _ => tooLong
  | fuel + 1, before => do
    let check : Check := { Check.none with newlines := true, keywords := true }
    setCheck check
    let token ← readToken inner
    if token = .keyword .esac then return before.reverse
    if token = .openParen then discard (readToken inner)
    let patterns ← readPatternsWithin inner patience []
    let body := (← inner.list .optional).getD .nothing
    let cases := Case.on patterns body :: before
    setCheck check
    match ← readToken inner with
    | .keyword .esac => return cases.reverse
    | .endCase => readCasesWithin inner fuel cases
    | _ => unexpected (some .endCase)

private def readChoice (inner : Inner) (line : Nat) : Read Command := do
  expect inner .word
  let word := (← get).word
  setCheck .laterCommand
  expect inner (.keyword .in)
  return .choice line word (← readCasesWithin inner patience [])

/-! ### Simple commands -/

/-- Reads a function behind its name and the opening parenthesis. -/
private def readFunction (inner : Inner) (name : Word) : Read Command := do
  expect inner .closeParen
  let name := name.plainText?.getD []
  if !isName name || specialNames.contains (String.ofList name) then fail "Bad function name"
  setCheck .laterCommand
  return .define (String.ofList name) (← inner.command)

private def readSimpleWithin (inner : Inner) (line : Nat) :
    Nat → (assignments words : List Word) → List Redirection → Read Command
  | 0, _, _, _ => tooLong
  | fuel + 1, assignments, words, redirections => do
    setCheck { Check.none with aliases := words.isEmpty }
    match ← readToken inner, words with
    | .word, _ =>
      let word := (← get).word
      if words.isEmpty && word.isAssignment then
        readSimpleWithin inner line fuel (word :: assignments) words redirections
      else
        readSimpleWithin inner line fuel assignments (word :: words) redirections
    | .redirection, _ =>
      let redirection ← readTarget inner
      readSimpleWithin inner line fuel assignments words (redirection :: redirections)
    | .openParen, [name] =>
      if assignments.isEmpty && redirections.isEmpty then readFunction inner name
      else
        putBackToken
        return .simple line assignments.reverse words.reverse redirections.reverse
    | _, _ =>
      putBackToken
      return .simple line assignments.reverse words.reverse redirections.reverse

private def readSimple (inner : Inner) : Read Command := do
  readSimpleWithin inner (← get).source.line patience [] [] []

/-- Puts redirections around a command. -/
private def redirected (line : Nat) (body : Command) (redirections : List Redirection) : Command :=
  match redirections, body with
  | [], body => body
  | redirections, .subshell line body _ => .subshell line body redirections
  | redirections, body => .redirected line body redirections

/-- Reads one command. -/
def readCommand (inner : Inner) : Read Command := do
  let line := (← get).source.line
  let token ← readToken inner
  let body ←
    match token with
    | .keyword .if => readConditional inner
    | .keyword .while => readLoop inner false
    | .keyword .until => readLoop inner true
    | .keyword .each => readEach inner line
    | .keyword .choice => readChoice inner line
    | .openParen =>
      let body ← readBody inner
      expect inner .closeParen
      pure (.subshell line body [])
    | .keyword .openBrace =>
      let body ← readBody inner
      expect inner (.keyword .closeBrace)
      pure body
    | .word | .redirection =>
      putBackToken
      return ← readSimple inner
    | _ => unexpected none
  return redirected line body (← readRedirections inner)

/-! ### Lists -/

private def readPipelineWithin (inner : Inner) : Nat → List Command → Read (List Command)
  | 0, _ => tooLong
  | fuel + 1, before => do
    if (← readToken inner) = .pipe then
      setCheck .laterCommand
      readPipelineWithin inner fuel ((← readCommand inner) :: before)
    else
      putBackToken
      return before.reverse

private def readPipeline (inner : Inner) : Read Command := do
  let negates := (← readToken inner) = .keyword .not
  if negates then setCheck .command else putBackToken
  let first ← readCommand inner
  let command :=
    match ← readPipelineWithin inner patience [first] with
    | [_] => first
    | commands => .pipeline commands false
  return if negates then .negated command else command

private def readAndOrWithin (inner : Inner) : Nat → Command → Read Command
  | 0, _ => tooLong
  | fuel + 1, first => do
    match ← readToken inner with
    | .and =>
      setCheck .laterCommand
      readAndOrWithin inner fuel (.both first (← readPipeline inner))
    | .or =>
      setCheck .laterCommand
      readAndOrWithin inner fuel (.either first (← readPipeline inner))
    | _ =>
      putBackToken
      return first

private def readAndOr (inner : Inner) : Read Command := do
  readAndOrWithin inner patience (← readPipeline inner)

/-- Has a command run in the background. -/
private def inBackground (line : Nat) : Command → Command
  | .pipeline commands _ => .pipeline commands true
  | .redirected line body redirections => .background line body redirections
  | command => .background line command []

/-- Commands one after another; the last one is given first. -/
private def sequenceOf : List Command → Command
  | [] => .nothing
  | [command] => command
  | commands => .sequence commands.reverse

private def readListWithin (inner : Inner) (listEnd : ListEnd) :
    Nat → List Command → Read (Option Command)
  | 0, _ => tooLong
  | fuel + 1, before => do
    let atEnd (before : List Command) : Read (Option Command) := do
      readDocuments inner
      putBackToken
      discard (setToken .endOfFile)
      return if before.isEmpty && listEnd = .line then none else some (sequenceOf before)
    setCheck (if listEnd = .line then .command else .laterCommand)
    let token ← readToken inner
    if token = .newline then
      readDocuments inner
      return some (sequenceOf before)
    if token = .endOfFile then return ← atEnd before
    putBackToken
    let mayEnd := listEnd = .optional || listEnd = .closed && !before.isEmpty
    if mayEnd && token.endsList then return some (sequenceOf before)
    let line := (← get).source.line
    let command ← readAndOr inner
    let token ← readToken inner
    let before := (if token = .ampersand then inBackground line command else command) :: before
    match token with
    | .endOfFile => atEnd before
    | .newline =>
      putBackToken
      readListWithin inner listEnd fuel before
    | .ampersand | .semicolon => readListWithin inner listEnd fuel before
    | _ =>
      if listEnd = .line then unexpected none
      putBackToken
      return some (sequenceOf before)

/-- Reads commands up to the end of their list; none if a script is at its end. -/
def readList (inner : Inner) (listEnd : ListEnd) : Read (Option Command) :=
  readListWithin inner listEnd patience []

end Read

namespace Inner

/-- Reads commands that are nested up to a depth. -/
def ofDepth : Nat → Inner
  | 0 => ⟨fun _ => Read.tooLong, Read.tooLong, Read.tooLong⟩
  | depth + 1 =>
    let inner := ofDepth depth
    ⟨Read.readList inner, Read.readCommand inner, Read.readToken inner⟩

/-- How deep commands may be nested. -/
def maxDepth : Nat := 1000

/-- The reader that all scripts are read with. -/
def all : Inner := ofDepth maxDepth

end Inner

namespace Reader

/-- Reads the next whole command; none at the end of the script. -/
def command (r : Reader) : Except SyntaxFault (Option Command) × Reader :=
  (Inner.all.list .line).run.run { r with isBack := false, check := .none, announced := [] }

/-- Whether nothing is left behind the command that was read. -/
def isAtEnd (r : Reader) : Bool := r.isBack && r.token = .endOfFile

/-- A reader whose last token is that of the end, which is to be read once more. -/
def atEnd (r : Reader) : Reader := { r with isBack := true, token := .endOfFile }

/-- Reads a text as the inside of double quotes. -/
def text (r : Reader) : Except SyntaxFault Word × Reader :=
  let read : Read Word := do
    let (s, _) ← Read.scan Inner.all .text .double (← Read.nextJoined)
    return s.parts.reverse
  read.run.run r

end Reader

end Handoff.Shell

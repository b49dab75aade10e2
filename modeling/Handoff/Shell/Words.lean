import Handoff.Shell.Reader

/-!
Reading words.

A word is scanned character by character. A `Frame` knows how the stretch that is being scanned is
quoted and how many expansions have been opened in it; an expansion that is quoted in another way
than what is around it gets a frame of its own. The same scan reads here-documents. What stands in
parentheses behind a dollar sign, and between backquotes, is a list of commands, so scanning a word
needs `Inner`, which reads commands.
-/

namespace Handoff.Shell

/-- Where a list of commands ends. -/
inductive ListEnd where
  /-- In front of a token that ends lists; there must be a command. -/
  | closed
  /-- The same, but the list may be empty. -/
  | optional
  /-- At the end of the line. -/
  | line
  deriving DecidableEq, Repr

/-- Readers of the commands inside of others. -/
structure Inner where
  list : ListEnd → Read (Option Command)
  command : Read Command
  token : Read Token

/-- A stretch of a word. -/
structure Frame where
  style : Style
  isDouble : Bool
  /-- How many expansions are open in it. -/
  opened : Nat
  /-- Whether a quote inside of an expansion is open. -/
  inQuote : Bool
  /-- Whether it ends with the expansion that it was made for. -/
  isPushed : Bool
  /-- How many of the expansions were opened between quotes. -/
  openedQuoted : Nat
  /-- How many parentheses are open in arithmetic. -/
  parens : Nat
  deriving DecidableEq, Repr

namespace Frame

def start (style : Style) : Frame := ⟨style, style = .double, 0, false, false, 0, 0⟩

def forExpansion (style : Style) : Frame := ⟨style, style ≠ .bare, 0, false, true, 0, 0⟩

def forArithmetic : Frame := ⟨.arithmetic, true, 0, false, false, 0, 0⟩

/-- Opens an expansion. -/
def «open» (f : Frame) : Frame :=
  { f with opened := f.opened + 1, openedQuoted := f.openedQuoted + if f.isDouble then 1 else 0 }

/-- A double quote: inside of an expansion the quoting of its word changes. -/
def toggle (f : Frame) : Frame := if f.opened ≠ 0 then { f with inQuote := !f.inQuote } else f

end Frame

/-- An expansion whose end has not been read. -/
inductive Unfinished where
  | parameter (name : Text) (use : Use) (colon : Bool)
  | arithmetic
  deriving DecidableEq, Repr

def Unfinished.finish (inside : List Part) : Unfinished → Part
  | parameter name use colon => .parameter name use colon inside
  | arithmetic => .arithmetic inside

/-- A word as far as it has been scanned; the parts are kept last one first. -/
structure Scan where
  frame : Frame
  frames : List Frame
  parts : List Part
  /-- The expansions that are open, innermost first, with the parts in front of each. -/
  outer : List (Unfinished × List Part)
  isQuoted : Bool

namespace Scan

def start (style : Style) : Scan := ⟨.start style, [], [], [], false⟩

def add (s : Scan) (part : Part) : Scan := { s with parts := part :: s.parts }

def put (s : Scan) (c : Char) : Scan := s.add (.glyph (.plain c))

def putGuarded (s : Scan) (c : Char) : Scan := s.add (.glyph (.guarded c))

def quoted (s : Scan) : Scan := { s with isQuoted := true }

def onFrame (s : Scan) (f : Frame → Frame) : Scan := { s with frame := f s.frame }

def push (s : Scan) (frame : Frame) : Scan := { s with frame, frames := s.frame :: s.frames }

def pop (s : Scan) : Scan :=
  match s.frames with
  | [] => s
  | frame :: frames => { s with frame, frames }

/-- Goes on inside of an expansion. -/
def enter (s : Scan) (unfinished : Unfinished) : Scan :=
  { s with parts := [], outer := (unfinished, s.parts) :: s.outer }

/-- Goes on behind the innermost expansion. -/
def leave (s : Scan) : Scan :=
  match s.outer with
  | [] => s
  | (unfinished, parts) :: outer =>
    { s with parts := unfinished.finish s.parts.reverse :: parts, outer }

end Scan

/-- What a character does to a word. -/
inductive Role where
  | ordinary | guarded | newline | backslash | single | double | endQuote | backquote | dollar
  | closeBrace | openParen | closeParen
  /-- It ends a word unless an expansion is open. -/
  | operator
  deriving DecidableEq, Repr

def Style.role (style : Style) (c : Char) : Role :=
  if c = '\n' then .newline
  else if style.guards c then .guarded
  else
    match style, c with
    | .single, '\'' | .double, '"' => .endQuote
    | .single, _ => .ordinary
    | _, '\\' => .backslash
    | _, '\x60' => .backquote
    | _, '$' => .dollar
    | _, '\x7d' => .closeBrace
    | .bare, '\'' => .single
    | .bare, '"' => .double
    | .arithmetic, '(' => .openParen
    | .arithmetic, ')' => .closeParen
    | .bare, c =>
      if ['<', '>', '(', ')', ';', '&', '|', ' ', '\t'].contains c then .operator else .ordinary
    | _, _ => .ordinary

/-- What is being scanned. -/
inductive Scanned where
  | word
  /-- A text of its own, to its end. -/
  | text
  | document (document : Announced)

namespace Read

/-- Whether a character is a parameter by itself. -/
def isSpecialParameter (c : Char) : Bool :=
  c.isDigit || ['?', '$', '!', '-', '*', '@', '#'].contains c

def nextIn (frame : Frame) : Read (Option Char) :=
  if frame.style = .single then next else nextJoined

/-! ### Lines of here-documents -/

private def skipTabsWithin : Nat → Option Char → Read (Option Char)
  | fuel + 1, some '\t' => do skipTabsWithin fuel (← next)
  | _, c => pure c

/-- Reads on as long as the end mark is read; gives back what was read, last one first, and
whether it was all of the mark and the line. -/
private def matchMark : (mark : Text) → Option Char → Text → Read (Text × Bool)
  | [], c, before =>
    match c with
    | none => pure (before, true)
    | some '\n' => pure ('\n' :: before, true)
    | some c => pure (c :: before, false)
  | m :: mark, some c, before =>
    if c = m then do matchMark mark (← next) (c :: before) else pure (c :: before, false)
  | _ :: _, none, before => pure (before, false)

/-- Looks for the end mark at the start of a line. The line ends the document, or is read as it
is. -/
def atLineStart (scanned : Scanned) (first : Option Char) : Read (Option Char) := do
  let .document document := scanned | return first
  let first ← if document.stripsTabs then skipTabsWithin patience first else pure first
  match ← matchMark document.endMark first [] with
  | (_, true) =>
    countLine
    return none
  | (read, false) =>
    match read.reverse with
    | [] => return none
    | c :: rest =>
      putBackText rest
      return some c

/-! ### Expansions -/

private def readWhile (p : Char → Bool) : Nat → Text → Option Char → Read (Text × Option Char)
  | fuel + 1, before, some c => do
    if p c then readWhile p fuel (c :: before) (← nextJoined)
    else return (before.reverse, some c)
  | _, before, c => return (before.reverse, c)

/-- A parameter that is named behind a dollar sign. -/
structure Reference where
  name : Text
  isLength : Bool
  isClear : Bool
  /-- The character behind the name. -/
  after : Option Char

private def readName (isBraced isLength : Bool) (c : Char) : Read Reference := do
  let (name, after) ←
    if startsName c then readWhile isNameChar patience [] (some c)
    else if isBraced then readWhile Char.isDigit patience [] (some c)
    else do pure ([c], ← nextJoined)
  return ⟨name, isLength, true, after⟩

private def isReferenceName (c : Char) : Bool := startsName c || c.isDigit

/-- A parameter that is a single sign, with what comes after it. -/
private def signReference (sign after : Option Char) (isLength : Bool) : Reference :=
  match sign with
  | some c =>
    if isSpecialParameter c then ⟨[c], isLength, true, after⟩ else ⟨[], false, false, after⟩
  | none => ⟨[], false, false, after⟩

private def readReference (isBraced : Bool) (first : Option Char) : Read Reference := do
  match first with
  | some '\x7d' => return ⟨[], false, false, first⟩
  | some c =>
    if isReferenceName c then return ← readName isBraced false c
  | none => pure ()
  let after ← nextJoined
  if isBraced && first = some '#' then
    match after with
    | some c =>
      if isReferenceName c then return ← readName isBraced true c
    | none => pure ()
    let second ← nextJoined
    if after = some '\x7d' || second ≠ some '\x7d' then
      putBack second
      return signReference first after false
    else
      return signReference after second true
  return signReference first after false

/-- The use that a sign behind a name stands for. -/
private def useOf? : Option Char → Use
  | some '\x7d' => .value
  | some '-' => .fallback
  | some '+' => .alternative
  | some '?' => .demand
  | some '=' => .assign
  | _ => .bad

/-- Reads what is to be made of a parameter between braces. -/
private def readUse (r : Reference) : Read (Use × Bool) := do
  if !r.isClear || r.isLength && r.after ≠ some '\x7d' then
    putBack r.after
    return (.bad, false)
  if r.isLength then
    putBack r.after
    return (.length, false)
  match r.after with
  | some ':' => return (useOf? (← nextJoined), true)
  | some '%' =>
    let c ← nextJoined
    if c ≠ some '%' then putBack c
    return (.cutEnd (c = some '%'), false)
  | some '#' =>
    let c ← nextJoined
    if c ≠ some '#' then putBack c
    return (.cutStart (c = some '#'), false)
  | c => return (useOf? c, false)

private def readParameter (s : Scan) (isBraced : Bool) (first : Option Char) : Read Scan := do
  let r ← readReference isBraced first
  if !isBraced then
    putBack r.after
    return s.add (.parameter r.name .value false [])
  let (use, colon) ← readUse r
  if use = .value && !colon then return s.add (.parameter r.name .value false [])
  let style : Style :=
    match use with
    | .cutEnd _ | .cutStart _ => .bare
    | _ => if s.frame.style = .arithmetic then .double else s.frame.style
  let s :=
    if style ≠ s.frame.style || s.frame.inQuote then s.push (.forExpansion style) else s
  return (s.onFrame .open).enter (.parameter r.name use colon)

/-- Reads the output of a command up to the closing parenthesis. -/
private def readOutput (inner : Inner) (s : Scan) : Read Scan := do
  let announced := (← get).announced
  modify fun r => { r with announced := [] }
  let command ← inner.list .optional
  if (← inner.token) ≠ .closeParen then unexpected (some .closeParen)
  modify fun r => { r with announced }
  return s.add (.output (command.getD .nothing))

private def readDollar (inner : Inner) (s : Scan) : Read Scan := do
  let c ← nextJoined
  if (← get).check.isEndMark then
    putBack c
    return s.put '$'
  match c with
  | some '(' =>
    match ← nextJoined with
    | some '(' => return (s.push .forArithmetic).enter .arithmetic
    | c =>
      putBack c
      readOutput inner s
  | some '\x7b' => readParameter s true (← nextJoined)
  | c =>
    if c.any fun c => startsName c || isSpecialParameter c then readParameter s false c
    else
      putBack c
      return s.put '$'

/-- Reads the text between backquotes, in which some backslashes are taken away. -/
private def readBackquotedWithin (isDouble : Bool) : Nat → Text → Read Text
  | 0, _ => tooLong
  | fuel + 1, before => do
    match ← nextJoined with
    | some '\x60' => return before.reverse
    | some '\\' =>
      match ← next with
      | none => readBackquotedWithin isDouble fuel before
      | some c =>
        let isKept := !(c = '\\' || c = '\x60' || c = '$') && (!isDouble || c ≠ '"')
        readBackquotedWithin isDouble fuel (c :: if isKept then '\\' :: before else before)
    | some c =>
      if c = '\n' then countLine
      readBackquotedWithin isDouble fuel (c :: before)
    | none => fail "EOF in backquote substitution"

private def readBackquote (inner : Inner) (s : Scan) : Read Scan := do
  if (← get).check.isEndMark then return s.quoted.put '\x60'
  let text ← readBackquotedWithin s.frame.isDouble patience []
  let announced := (← get).announced
  modify fun r => { r with announced := [] }
  let command ← within (Source.ofText text) (inner.list .optional)
  modify fun r => { r with announced }
  return s.add (.output (command.getD .nothing))

/-! ### The scan -/

private def mark (scanned : Scanned) (s : Scan) : Scan :=
  match scanned with
  | .word => s.add (.glyph .mark)
  | _ => s

private def isWord : Scanned → Bool
  | .word => true
  | _ => false

private def endQuote (scanned : Scanned) (c : Char) (s : Scan) : Scan :=
  let f := s.frame
  if !isWord scanned && f.opened = 0 then s.put c
  else
    let s :=
      if f.openedQuoted = 0 then s.onFrame ({ · with style := .bare, isDouble := false }) else s
    let s := if c = '"' then s.onFrame .toggle else s
    mark scanned s.quoted

private def backslash (scanned : Scanned) (s : Scan) : Read Scan := do
  match ← next with
  | none => return s.putGuarded '\\'
  | some '\n' =>
    countLine
    return s
  | some c =>
    let f := s.frame
    let isTaken := c = '\\' || c = '\x60' || c = '$' ||
      c = '"' && (isWord scanned || f.opened ≠ 0) || c = '\x7d' && f.opened ≠ 0
    let s := if f.isDouble && !isTaken then s.putGuarded '\\' else s
    return (s.putGuarded c).quoted

private def closeBrace (s : Scan) : Scan :=
  let f := s.frame
  if f.inQuote || f.opened = 0 then s.put '\x7d'
  else
    let s := s.leave.onFrame fun f => { f with opened := f.opened - 1 }
    if f.opened = 1 && f.isPushed then s.pop
    else s.onFrame fun f => { f with openedQuoted := f.openedQuoted - 1 }

private def closeParen (s : Scan) : Read Scan := do
  if s.frame.parens ≠ 0 then
    return (s.put ')').onFrame fun f => { f with parens := f.parens - 1 }
  match ← nextJoined with
  | some ')' => return s.leave.pop
  | c =>
    putBack c
    return s.put ')'

/-- What a character makes of a word; none if the word ends in front of it. -/
private def step (inner : Inner) (scanned : Scanned) (c : Char)
    (s : Scan) : Read (Option Scan) := do
  match s.frame.style.role c with
  | .ordinary => return s.put c
  | .guarded =>
    return if isWord scanned || s.frame.isDouble || s.frame.opened ≠ 0 then s.putGuarded c
      else s.put c
  | .newline =>
    if s.frame.style = .bare && s.frame.opened = 0 then return none
    countLine
    return s.put c
  | .backslash => backslash scanned s
  | .single => return mark scanned (s.onFrame ({ · with style := .single }))
  | .double =>
    return mark scanned (s.onFrame fun f => { f with style := .double, isDouble := true }.toggle)
  | .endQuote => return endQuote scanned c s
  | .backquote => readBackquote inner s
  | .dollar => readDollar inner s
  | .closeBrace => return closeBrace s
  | .openParen => return (s.put c).onFrame fun f => { f with parens := f.parens + 1 }
  | .closeParen => closeParen s
  | .operator => return if s.frame.opened = 0 then none else some (s.put c)

/-- Scans on from a character, up to the character that the word ends in front of. -/
private def scanWithin (inner : Inner) (scanned : Scanned) :
    Nat → Option Char → Scan → Read (Scan × Option Char)
  | 0, _, _ => tooLong
  | _, none, s => return (s, none)
  | fuel + 1, some c, s => do
    match ← step inner scanned c s with
    | none => return (s, some c)
    | some s =>
      let next ← nextIn s.frame
      let next ← if c = '\n' then atLineStart scanned next else pure next
      scanWithin inner scanned fuel next s

/-- Scans a word from its first character on. -/
def scan (inner : Inner) (scanned : Scanned) (style : Style)
    (first : Option Char) : Read (Scan × Option Char) := do
  let first ← atLineStart scanned first
  let (s, stop) ← scanWithin inner scanned patience first (.start style)
  if s.frame.style = .arithmetic then fail "Missing '))'"
  if s.frame.style ≠ .bare && isWord scanned then fail "Unterminated quoted string"
  if s.frame.opened ≠ 0 then fail "Missing '\x7d'"
  return (s, stop)

/-- Reads the texts of the here-documents that have been announced. -/
def readDocuments (inner : Inner) : Read Unit := do
  let announced := (← get).announced
  modify fun r => { r with announced := [] }
  announced.forM fun document => do
    let first ← if document.isQuoted then next else nextJoined
    let style : Style := if document.isQuoted then .single else .double
    let (s, _) ← scan inner (.document document) style first
    setDocument document.index s.parts.reverse

/-! ### Redirections -/

/-- Reads the sign of a redirection, which the descriptor may stand in front of. -/
private def readArrow (fd? : Option Nat) (sign : Char) : Read Arrow := do
  if sign = '>' then
    let fd := fd?.getD 1
    match ← nextJoined with
    | some '>' => return .file fd .append
    | some '|' => return .file fd .force
    | some '&' => return .copy fd
    | c =>
      putBack c
      return .file fd .write
  else
    let fd := fd?.getD 0
    match ← nextJoined with
    | some '<' =>
      match ← nextJoined with
      | some '-' => return .document fd true
      | c =>
        putBack c
        return .document fd false
    | some '&' => return .copy fd
    | some '>' => return .file fd .update
    | c =>
      putBack c
      return .file fd .read

/-- Reads a word, or a redirection with a digit or nothing in front of its sign. -/
def readWord (inner : Inner) (first : Option Char) : Read Token := do
  let (s, stop) ← scan inner .word .bare first
  let fd? : Option (Option Nat) :=
    match s.isQuoted, s.parts with
    | false, [] => some none
    | false, [.glyph (.plain c)] => if c.isDigit then some (some (c.toNat - '0'.toNat)) else none
    | _, _ => none
  match stop, fd? with
  | some '<', some fd =>
    let arrow ← readArrow fd '<'
    modify fun r => { r with arrow }
    setToken .redirection
  | some '>', some fd =>
    let arrow ← readArrow fd '>'
    modify fun r => { r with arrow }
    setToken .redirection
  | _, _ =>
    putBack stop
    modify fun r => { r with word := s.parts.reverse, isQuoted := s.isQuoted }
    setToken .word

end Read

end Handoff.Shell

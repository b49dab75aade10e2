import Handoff.Shell.Arithmetic
import Handoff.Shell.Fields
import Handoff.Shell.Names
import Handoff.Shell.Session

/-!
Expanding words.

The parts of a word are expanded from left to right into spans, from which fields are cut. What is
made of a word depends on where it stands: a `Mode` says whether fields are cut, whether quotes
matter, and where a tilde stands for a home folder. What a command puts out is asked for through
an `Output`, since running commands comes later.
-/

namespace Handoff.Shell

open Handoff.Host

/-- Runs a command apart and gives what it puts out. -/
abbrev Output := Command → Run Bytes

/-- How a word is expanded. -/
structure Mode where
  /-- Whether its fields are cut. -/
  isFull : Bool
  /-- Whether it is a pattern. -/
  isPattern : Bool
  isQuoted : Bool
  /-- Whether a tilde at its start stands for a home folder. -/
  hasHome : Bool
  /-- Whether it is an assignment, in which a tilde may follow an equals sign or a colon. -/
  isAssignment : Bool
  /-- Whether it stands inside of another expansion. -/
  isInner : Bool
  deriving DecidableEq, Repr

namespace Mode

def fields : Mode := ⟨true, false, false, true, false, false⟩

def text : Mode := ⟨false, false, false, true, false, false⟩

def assignment : Mode := ⟨false, false, false, false, true, false⟩

def pattern : Mode := ⟨false, true, false, true, false, false⟩

def quoted : Mode := ⟨false, false, true, false, false, false⟩

/-- For the inside of arithmetic. -/
def expression : Mode := ⟨false, false, false, false, false, false⟩

/-- Whether the quotes of glyphs are still asked for. -/
def keepsQuotes (m : Mode) : Bool := m.isFull || m.isPattern

/-- The glyphs of a value. -/
def glyphs (m : Mode) (text : Text) : List Glyph :=
  if m.keepsQuotes then Glyph.ofValue m.isQuoted text else Glyph.plains text

end Mode

/-! ### Arithmetic -/

private def arithmeticBindings : Arithmetic.Bindings Session where
  read s name :=
    let text := (s.value? (String.ofList name)).getD []
    match wholeNumber? 0 text with
    | some n => .ok n
    | none => .error (String.ofList (illegalNumber text))
  write s name n :=
    match (setBinding (String.ofList name) (some (toString n).toList) false false).run.run s with
    | (.ok (), s) => .ok s
    | (.error _, _) => .error (String.ofList name ++ ": is read only")

/-- The value of an arithmetic expression. -/
def calculate (expression : Text) : Run Int := do
  match Arithmetic.evaluate arithmeticBindings (← get) expression with
  | .ok (n, s) =>
    set s
    return n
  | .error (.expression message) =>
    failWith ("arithmetic expression: ".toList ++ message.toList ++ ": \"".toList ++ expression ++
      ['"'])
  | .error (.binding message) => failString message

/-! ### Home folders -/

/-- The home folders of the users of the system. -/
def homes : List (String × String) :=
  [("root", "/root"), ("daemon", "/usr/sbin"), ("bin", "/bin"), ("sys", "/dev"),
   ("sync", "/bin"), ("games", "/usr/games"), ("man", "/var/cache/man"), ("lp", "/var/spool/lpd"),
   ("mail", "/var/mail"), ("news", "/var/spool/news"), ("uucp", "/var/spool/uucp"),
   ("proxy", "/bin"), ("www-data", "/var/www"), ("backup", "/var/backups"), ("list", "/var/list"),
   ("irc", "/run/ircd"), ("_apt", "/nonexistent"), ("nobody", "/nonexistent")]

/-- The home folder that a word begins with behind its tilde, and what comes after it. -/
private def homeIn (s : Session) (isAssignment : Bool) (word : Word) : Option (Text × Word) := do
  let (name, rest) ← go [] word
  let home ←
    if name = [] then s.value? "HOME"
    else (homes.lookup (String.ofList name)).map String.toList
  return (home, rest)
where
  go (before : Text) : Word → Option (Text × Word)
    | [] => some (before.reverse, [])
    | .glyph (.plain c) :: word =>
      if c = '/' || c = ':' && isAssignment then some (before.reverse, .glyph (.plain c) :: word)
      else go (c :: before) word
    | _ => none

/-! ### Parameters -/

/-- What stands between all arguments where they are not separate; it is the first separator
there is. -/
private def joint (s : Session) : Text :=
  match s.value? "IFS" with
  | some separators => separators.take 1
  | none => [' ']

private def joinGlyphs (between : List Glyph) : List (List Glyph) → List Glyph
  | [] => []
  | [gs] => gs
  | gs :: rest => gs ++ between ++ joinGlyphs between rest

/-- The glyphs of all arguments. -/
private def allArgs (s : Session) (mode : Mode) (isAt : Bool) : List Glyph :=
  let between : List Glyph :=
    if mode.isFull && (isAt || !mode.isQuoted) then
      if mode.isQuoted || (s.value? "IFS").isSome then [.plain '\x00'] else [.plain ' ']
    else mode.glyphs (joint s)
  joinGlyphs between (s.args.map mode.glyphs)

/-- The value of a parameter that has only one. -/
private def parameter? (s : Session) (name : Text) : Option Text :=
  match name with
  | ['$'] => some (toString s.root).toList
  | ['?'] => some (toString s.status).toList
  | ['#'] => some (toString s.args.length).toList
  | ['!'] => s.lastJob.map fun n => (toString n).toList
  | ['-'] => some (Switch.letters s.switches)
  | c :: _ =>
    if c.isDigit then
      let n := (Number.Whole.scan 10 name).magnitude
      if n = 0 then some s.name else s.args[n - 1]?
    else s.value? (String.ofList name)
  | [] => none

/-- The glyphs of the value of a parameter, if it is set. -/
private def valueGlyphs? (s : Session) (mode : Mode) (name : Text) : Option (List Glyph) :=
  match name with
  | ['@'] => some (allArgs s mode true)
  | ['*'] => some (allArgs s mode false)
  | _ => (parameter? s name).map mode.glyphs

/-- A value as a span of a word. -/
private def spanOf (s : Session) (mode : Mode) (name : Text) (gs : List Glyph) : Span :=
  if !mode.isQuoted then .split gs
  else if name = ['@'] ∧ s.args ≠ [] then .separate gs
  else .fixed gs

/-- The shortest or the longest start or end of a value that a pattern matches is taken away. -/
private def cutValue (pattern : Text) (use : Use) (gs : List Glyph) : List Glyph :=
  let elements := Pattern.compile pattern
  let fits (gs : List Glyph) : Bool := Pattern.fits elements (Glyph.textOf gs)
  let places := List.range (gs.length + 1)
  match use with
  | .cutStart longest =>
    match (if longest then places.reverse else places).find? fun n => fits (gs.take n) with
    | some n => gs.drop n
    | none => gs
  | .cutEnd longest =>
    match (if longest then places else places.reverse).find? fun n => fits (gs.drop n) with
    | some n => gs.take n
    | none => gs
  | _ => gs

private def notSet (name : Text) (message : Text) : Run (List Span) :=
  failWith (name ++ ": ".toList ++ message)

/-! ### Words -/

/-- Expands a word that stands inside of another one. -/
abbrev Nested := Mode → Word → Run (List Span)

private def expandParameter (nested : Nested) (mode : Mode) (name : Text) (use : Use)
    (colon : Bool) (word : Word) : Run (List Span) := do
  let s ← get
  let value? := valueGlyphs? s mode name
  let value? := if colon && value? = some [] then none else value?
  let inner : Mode := { mode with hasHome := true, isInner := true }
  let whole (gs : List Glyph) : Run (List Span) := return [spanOf (← get) mode name gs]
  match use, value? with
  | .bad, _ => failString "Bad substitution"
  | .fallback, some gs | .demand, some gs | .assign, some gs | .value, some gs => whole gs
  | .fallback, none => nested inner word
  | .alternative, some _ => nested inner word
  | .alternative, none => return if mode.isQuoted then [] else [.split []]
  | .assign, none =>
    let value := Span.textOf (← nested .text word)
    setNamed name (some value) false false
    whole (((valueGlyphs? (← get) mode name)).getD [])
  | .demand, none =>
    let message := Span.textOf (← nested .text word)
    notSet name <|
      if word.isEmpty then ("parameter not set" ++ if colon then " or null" else "").toList
      else message
  | .value, none =>
    if s.isOn .nounset then notSet name "parameter not set".toList else return []
  | .length, value? =>
    if value?.isNone && s.isOn .nounset then notSet name "parameter not set".toList
    else
      let plain : Mode := { mode with isFull := false, isPattern := false }
      let length := ((valueGlyphs? s plain name).getD []).length
      whole (mode.glyphs (toString length).toList)
  | .cutStart _, some gs | .cutEnd _, some gs =>
    let pattern := (← nested .pattern word).flatMap Span.glyphs
    whole (cutValue (Glyph.patternOf pattern) use gs)
  | .cutStart _, none | .cutEnd _, none =>
    if s.isOn .nounset then notSet name "parameter not set".toList else return []

private def expandOutput (output : Output) (mode : Mode) (command : Command) :
    Run (List Span) := do
  let text := (← output command).octets.filter (· ≠ '\x00')
  let gs := mode.glyphs (text.reverse.dropWhile (· = '\n')).reverse
  return [if mode.isQuoted then .fixed gs else .split gs]

private def expandArithmetic (nested : Nested) (mode : Mode) (expression : Word) :
    Run (List Span) := do
  let n ← calculate (Span.textOf (← nested .expression expression))
  let gs := mode.glyphs (toString n).toList
  return [if mode.isQuoted then .fixed gs else .split gs]

/-- A word as far as it has been expanded. -/
private structure Walk where
  /-- The last span first. -/
  spans : List Span
  /-- Plain glyphs that stand together, the last one first. -/
  run : List Glyph
  inQuotes : Bool
  seenEquals : Bool

namespace Walk

private def flush (w : Walk) (mode : Mode) : Walk :=
  if w.run.isEmpty then w
  else
    let gs := w.run.reverse
    let isSplit := mode.isInner && !mode.isQuoted && !w.inQuotes
    { w with spans := (if isSplit then .split gs else .fixed gs) :: w.spans, run := [] }

private def add (w : Walk) (mode : Mode) (spans : List Span) : Walk :=
  let w := w.flush mode
  { w with spans := spans.reverse ++ w.spans }

end Walk

/-- The word behind `"$@"`, where the quotes stand right around it. -/
private def behindQuotedArgs? : Word → Option Word
  | .glyph .mark :: .parameter ['@'] .value false [] :: .glyph .mark :: word => some word
  | _ => none

/-- Expands the parts of a word. `startsHome` says that a tilde here may stand for a folder. -/
private def walk (nested : Nested) (output : Output) (mode : Mode) :
    (fuel : Nat) → (startsHome : Bool) → Walk → Word → Run (List Span)
  | 0, _, w, _ | _, _, w, [] => return (w.flush mode).spans.reverse
  | fuel + 1, startsHome, w, part :: word => do
    let quotedMode : Mode := { mode with isQuoted := mode.isQuoted || w.inQuotes }
    let go (w : Walk) : Run (List Span) := walk nested output mode fuel false w word
    match part with
    | .glyph (.plain '~') =>
      let s ← get
      match if startsHome then homeIn s mode.isAssignment word else none with
      | some (home, word) =>
        let gs := { mode with isQuoted := true : Mode }.glyphs home
        walk nested output mode fuel false (w.add mode [.fixed gs]) word
      | none => go { w with run := .plain '~' :: w.run }
    | .glyph (.plain c) =>
      let isBreak := mode.isAssignment && (c = ':' || c = '=' && !w.seenEquals)
      let w := { w with run := .plain c :: w.run }
      if isBreak then
        let w := { w.flush mode with seenEquals := w.seenEquals || c = '=' }
        walk nested output mode fuel true w word
      else go w
    | .glyph (.guarded c) =>
      go (w.add mode [.fixed [if mode.keepsQuotes then .guarded c else .plain c]])
    | .glyph .mark =>
      match if w.inQuotes then none else behindQuotedArgs? (part :: word) with
      | some word =>
        let spans ← expandParameter nested { mode with isQuoted := true } ['@'] .value false []
        walk nested output mode fuel false (w.add mode spans) word
      | none =>
        let w := w.add mode (if mode.keepsQuotes then [.fixed [.mark]] else [])
        go { w with inQuotes := !w.inQuotes }
    | .parameter name use colon inner =>
      go (w.add mode (← expandParameter nested quotedMode name use colon inner))
    | .output command => go (w.add mode (← expandOutput output quotedMode command))
    | .arithmetic expression => go (w.add mode (← expandArithmetic nested quotedMode expression))

/-- Expands a word whose expansions are nested up to a depth. -/
def expandWithin (output : Output) : (depth : Nat) → Nested
  | 0 => fun _ _ => throw .exhausted
  | depth + 1 => fun mode word =>
    let start : Walk := ⟨[], [], false, false⟩
    walk (expandWithin output depth) output mode (word.length + 1) mode.hasHome start word

/-- Expands a word. -/
def expand (output : Output) : Nested := expandWithin output Inner.maxDepth

/-- The text that a word expands to. -/
def expandText (output : Output) (mode : Mode) (word : Word) : Run Text := do
  return Span.textOf (← expand output mode word)

/-- The fields that a word expands to; patterns among them become file names. -/
def expandFields (output : Output) (word : Word) : Run (List Text) := do
  let spans ← expand output .fields word
  let s ← get
  return (cutFields s.separators none spans).flatMap fun gs =>
    let text := Glyph.textOf gs
    if s.isOn .noglob || !text.any fun c => c = '*' || c = '?' || c = '[' then [text]
    else
      match Names.paths s.machine s.folder (Glyph.patternOf gs) with
      | [] => [text]
      | paths => paths

end Handoff.Shell

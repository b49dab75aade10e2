import Handoff.Shell.Glyph

/-!
Patterns.

A pattern is compiled to a list of elements, and `Pattern.fits` says whether they match all of a
text. A bracket that is never closed stands for itself.
-/

namespace Handoff.Shell

namespace Pattern

/-- The order of characters in ranges: bytes count as numbers with a sign. -/
def rank (c : Char) : Int := if c.toNat < 128 then c.toNat else (c.toNat : Int) - 256

def isSpace (c : Char) : Bool := c = ' ' || '\t' ≤ c && c ≤ '\r'

def isGraph (c : Char) : Bool := '!' ≤ c && c ≤ '~'

def isHexDigit (c : Char) : Bool := c.isDigit || 'a' ≤ c && c ≤ 'f' || 'A' ≤ c && c ≤ 'F'

/-- The classes of characters by their names. -/
def classes : List (String × (Char → Bool)) :=
  [("alnum", Char.isAlphanum), ("cntrl", fun c => c < ' ' || c = '\x7f'), ("lower", Char.isLower),
   ("space", isSpace), ("alpha", Char.isAlpha), ("digit", Char.isDigit),
   ("print", fun c => isGraph c || c = ' '), ("upper", Char.isUpper),
   ("blank", fun c => c = ' ' || c = '\t'), ("graph", isGraph),
   ("punct", fun c => isGraph c && !c.isAlphanum), ("xdigit", isHexDigit)]

/-- What can stand between brackets. -/
inductive Item where
  | one (c : Char)
  | range (first last : Char)
  | member (name : String)
  deriving DecidableEq, Repr

def Item.has (c : Char) : Item → Bool
  | one d => c = d
  | range first last => rank first ≤ rank c && rank c ≤ rank last
  | member name => ((classes.lookup name).map (· c)).getD false

inductive Element where
  | one (c : Char)
  | any
  | many
  | set (inverted : Bool) (items : List Item)
  deriving DecidableEq, Repr

/-- The class that a text begins to name behind a bracket, and what comes after it. -/
private def class? (pattern : Text) : Option (String × Text) :=
  classes.findSome? fun (name, _) =>
    let shown := ':' :: name.toList ++ [':', ']']
    if shown.isPrefixOf pattern then some (name, pattern.drop shown.length) else none

/-- Reads the items of a set up to its end; none if it has none. `isFirst` says that a closing
bracket stands for itself here. -/
def items? (isFirst : Bool) : (fuel : Nat) → Text → Option (List Item × Text)
  | 0, _ | _, [] => none
  | fuel + 1, c :: pattern =>
    if c = ']' ∧ ¬isFirst then some ([], pattern)
    else
      match if c = '[' then class? pattern else none with
      | some (name, rest) =>
        (items? false fuel rest).map fun (is, rest) => (.member name :: is, rest)
      | none => do
        let (c, pattern) ←
          match c, pattern with
          | '\\', [] => none
          | '\\', d :: pattern => some (d, pattern)
          | _, _ => some (c, pattern)
        match pattern with
        | '-' :: d :: pattern =>
          if d = ']' then
            let (is, rest) ← items? false fuel ('-' :: d :: pattern)
            return (.one c :: is, rest)
          else
            let (d, pattern) ←
              match d, pattern with
              | '\\', [] => none
              | '\\', d :: pattern => some (d, pattern)
              | _, _ => some (d, pattern)
            let (is, rest) ← items? false fuel pattern
            return (.range c d :: is, rest)
        | ['-'] => none
        | pattern =>
          let (is, rest) ← items? false fuel pattern
          return (.one c :: is, rest)

/-- Reads a set behind its opening bracket. -/
def set? (pattern : Text) : Option (Element × Text) :=
  let (inverted, inside) :=
    match pattern with
    | '!' :: inside => (true, inside)
    | inside => (false, inside)
  (items? true (inside.length + 1) inside).map fun (is, rest) => (.set inverted is, rest)

def compileWithin : (fuel : Nat) → Text → List Element
  | 0, _ | _, [] => []
  | fuel + 1, c :: pattern =>
    match c, pattern with
    | '?', _ => .any :: compileWithin fuel pattern
    | '*', _ => .many :: compileWithin fuel pattern
    | '\\', d :: rest => .one d :: compileWithin fuel rest
    | '[', _ =>
      match set? pattern with
      | some (set, rest) => set :: compileWithin fuel rest
      | none => .one '[' :: compileWithin fuel pattern
    | c, _ => .one c :: compileWithin fuel pattern

/-- The elements of a pattern. -/
def compile (pattern : Text) : List Element := compileWithin pattern.length pattern

/-- Whether some end of a text has a property. -/
def someEnd (p : Text → Bool) : Text → Bool
  | [] => p []
  | c :: cs => p (c :: cs) || someEnd p cs

/-- Whether elements match all of a text. -/
def fits : List Element → Text → Bool
  | [], text => text.isEmpty
  | .many :: elements, text => someEnd (fits elements) text
  | _ :: _, [] => false
  | .one d :: elements, c :: text => c = d && fits elements text
  | .any :: elements, _ :: text => fits elements text
  | .set inverted items :: elements, c :: text =>
    (items.any (Item.has c) != inverted) && fits elements text

end Pattern

end Handoff.Shell

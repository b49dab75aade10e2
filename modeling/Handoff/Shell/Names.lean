import Handoff.Host.Path
import Handoff.Shell.Pattern

/-!
Patterns that stand for file names.

A pattern is followed folder by folder. A part of it without operators is taken as it is; a part
with operators stands for all names of a folder that it matches. A name that begins with a dot is
matched only by a pattern that begins with one.
-/

namespace Handoff.Shell

open Handoff.Host

namespace Names

/-- Whether a bracket is closed before the next slash. -/
private def closesWithin : (fuel : Nat) → Text → Bool
  | 0, _ => false
  | fuel + 1, cs =>
    match (match cs with | '\\' :: rest => rest | cs => cs) with
    | [] => false
    | '/' :: _ => false
    | _ :: ']' :: _ => true
    | _ :: rest => closesWithin fuel rest

private def closes (cs : Text) : Bool :=
  let inside := match cs with | '!' :: rest => rest | cs => cs
  closesWithin (inside.length + 1) inside

/-- A pattern cut around its first part with operators. -/
structure Cut where
  /-- What stands in front of it. -/
  front : Text
  part : Text
  /-- What comes after the slash behind it. -/
  rest : Option Text
  deriving DecidableEq, Repr

/-- Cuts a pattern. `front` and `part` hold what has been read, the last character first. -/
private def cutFrom (front part : Text) (found : Bool) : (fuel : Nat) → Text → Option Cut
  | 0, _ | _, [] => if found then some ⟨front.reverse, part.reverse, none⟩ else none
  | fuel + 1, c :: cs =>
    match c, cs with
    | '\\', '/' :: rest | '/', rest =>
      let rest := if c = '\\' then rest else cs
      if found then some ⟨front.reverse, part.reverse, some rest⟩
      else cutFrom ('/' :: part ++ front) [] false fuel rest
    | '\\', d :: cs => cutFrom front (d :: '\\' :: part) found fuel cs
    | c, cs =>
      let isOperator := c = '*' || c = '?' || c = '[' && closes cs
      cutFrom front (c :: part) (found || isOperator) fuel cs

def cut? (pattern : Text) : Option Cut := cutFrom [] [] false pattern.length pattern

/-- A text without the backslashes that guard characters. -/
def unguard : Text → Text
  | '\\' :: c :: cs => c :: unguard cs
  | c :: cs => c :: unguard cs
  | [] => []

/-- The names that a folder is read to have. -/
private def entries (m : Machine) (folder : Location) (path : Text) : List Text :=
  match m.resolve folder (Bytes.ofOctets (if path = [] then ['.'] else path)) with
  | .ok (.folder location) =>
    ['.'] :: ['.', '.'] :: (Object.names m location).map String.toList
  | _ => []

/-- The paths that begin with `front` and go on as a pattern says. -/
private def pathsFrom (m : Machine) (folder : Location) : (fuel : Nat) → Text → Text → List Text
  | 0, _, _ => []
  | fuel + 1, front, pattern =>
    match cut? pattern with
    | none =>
      let path := front ++ unguard pattern
      if front = [] ∨ ¬(m.resolve folder (Bytes.ofOctets path)).isOk then [] else [path]
    | some c =>
      let front := front ++ unguard c.front
      let startsWithDot := (unguard c.part).head? = some '.'
      let part := Pattern.compile c.part
      let names := (entries m folder front).filter fun name =>
        (name.head? ≠ some '.' || startsWithDot) && Pattern.fits part name
      match c.rest with
      | none => names.map (front ++ ·)
      | some rest => names.flatMap fun name => pathsFrom m folder fuel (front ++ name ++ ['/']) rest

/-- The paths that a pattern stands for, in order. -/
def paths (m : Machine) (folder : Location) (pattern : Text) : List Text :=
  ((pathsFrom m folder (pattern.length + 1) [] pattern).mergeSort Text.isBefore).eraseReps

end Names

end Handoff.Shell

import Handoff.Number.Whole
import Handoff.Shell.Grammar

/-!
Arithmetic in shell words.

An expression is cut into tokens and evaluated while it is read, level by level from the operators
that bind least. What is not needed is read without being evaluated. Numbers are whole and wrap
around at 64 bits. `Bindings` gives access to the variables; reading or setting one may fail.
-/

namespace Handoff.Shell.Arithmetic

open Handoff.Number

inductive Token where
  | number (n : Int)
  | name (cs : Text)
  | operator (mark : String)
  /-- A character that has no place in an expression. -/
  | stray
  deriving DecidableEq, Repr

/-- The operators, longer ones before those that they begin with. -/
def marks : List String :=
  ["<<=", ">>=", "||", "&&", "==", "!=", "<=", ">=", "<<", ">>", "+=", "-=", "*=", "/=", "%=",
   "&=", "|=", "^=", "+", "-", "*", "/", "%", "<", ">", "!", "~", "&", "|", "^", "(", ")", "?",
   ":", "="]

/-- The operators of two operands by how loosely they bind, apart from those that need not
evaluate both. -/
def levels : List (List String) :=
  [["|"], ["^"], ["&"], ["==", "!="], ["<", ">", "<=", ">="], ["<<", ">>"], ["+", "-"],
   ["*", "/", "%"]]

/-- The tokens of an expression, up to a character that has no place in one. `fuel` is at least
its length. -/
def tokens : (fuel : Nat) → Text → List Token
  | 0, _ | _, [] => []
  | fuel + 1, c :: cs =>
    if c = ' ' || c = '\t' || c = '\n' then tokens fuel cs
    else if c.isDigit then
      let w := Whole.scan 0 (c :: cs)
      .number w.signed.1 :: tokens fuel w.rest
    else if startsName c then
      .name ((c :: cs).takeWhile isNameChar) :: tokens fuel ((c :: cs).dropWhile isNameChar)
    else
      match marks.find? fun mark => mark.toList.isPrefixOf (c :: cs) with
      | some mark => .operator mark :: tokens fuel ((c :: cs).drop mark.length)
      | none => [.stray]

/-! ### Operations -/

/-- The bits of a number, as a natural one. -/
def bits (n : Int) : Nat := (n.emod Whole.wordLimit).toNat

/-- By how many places a shift moves. -/
def places (n : Int) : Nat := (n.emod 64).toNat

private def truth (b : Bool) : Int := if b then 1 else 0

/-- The value of an operation. -/
def apply (mark : String) (a b : Int) : Except String Int :=
  match mark with
  | "==" => .ok (truth (a = b))
  | "!=" => .ok (truth (a ≠ b))
  | "<" => .ok (truth (a < b))
  | ">" => .ok (truth (a > b))
  | "<=" => .ok (truth (a ≤ b))
  | ">=" => .ok (truth (a ≥ b))
  | "+" => .ok (Whole.wrap (a + b))
  | "-" => .ok (Whole.wrap (a - b))
  | "*" => .ok (Whole.wrap (a * b))
  | "/" => if b = 0 then .error "division by zero" else .ok (Whole.wrap (a.tdiv b))
  | "%" => if b = 0 then .error "division by zero" else .ok (Whole.wrap (a.tmod b))
  | "&" => .ok (Whole.wrap (bits a &&& bits b : Nat))
  | "|" => .ok (Whole.wrap (bits a ||| bits b : Nat))
  | "^" => .ok (Whole.wrap (bits a ^^^ bits b : Nat))
  | "<<" => .ok (Whole.wrap (bits a <<< places b : Nat))
  | ">>" => .ok (a >>> places b)
  | _ => .error "expecting EOF"

/-! ### Evaluation -/

/-- Access to the variables that a state holds. -/
structure Bindings (σ : Type) where
  read : σ → Text → Except String Int
  write : σ → Text → Int → Except String σ

/-- Why an expression has no value. -/
inductive Failure where
  /-- The expression is at fault. -/
  | expression (message : String)
  /-- A variable is. -/
  | binding (message : String)
  deriving DecidableEq, Repr

/-- What evaluates a part of an expression; the tokens that are left are part of its state. -/
abbrev Eval (σ : Type) := StateT (List Token × σ) (Except Failure)

variable {σ : Type}

private def fail {α : Type} (message : String) : Eval σ α := throw (.expression message)

private def peek : Eval σ (Option Token) := do return (← get).1.head?

private def advance : Eval σ Unit := modify fun (ts, s) => (ts.drop 1, s)

private def operate (mark : String) (a b : Int) : Eval σ Int :=
  match apply mark a b with
  | .ok n => pure n
  | .error message => fail message

private def readName (bindings : Bindings σ) (name : Text) : Eval σ Int := do
  match bindings.read (← get).2 name with
  | .ok n => pure n
  | .error message => throw (.binding message)

private def writeName (bindings : Bindings σ) (name : Text) (n : Int) : Eval σ Unit := do
  let (ts, s) ← get
  match bindings.write s name n with
  | .ok s => set (ts, s)
  | .error message => throw (.binding message)

/-- Whether the next token is an operator; if so, it is passed. -/
private def passes (mark : String) : Eval σ Bool := do
  if (← peek) = some (.operator mark) then
    advance
    return true
  return false

/-- The operator that an assignment applies before it assigns, if it is one. -/
private def assignment? : Option Token → Option (Option String)
  | some (.operator "=") => some none
  | some (.operator mark) =>
    if ["<<=", ">>=", "+=", "-=", "*=", "/=", "%=", "&=", "|=", "^="].contains mark then
      some (some (String.ofList mark.toList.dropLast))
    else none
  | _ => none

mutual

/-- An assignment or anything that binds tighter. `idle` says that nothing is evaluated. -/
private def assignment (bindings : Bindings σ) : (fuel : Nat) → (idle : Bool) → Eval σ Int
  | 0, _ => fail "expecting primary"
  | fuel + 1, idle => do
    match (← get).1 with
    | .name name :: next :: _ =>
      match assignment? (some next) with
      | some operator =>
        advance
        advance
        let n ← assignment bindings fuel idle
        if idle then return n
        let n ←
          match operator with
          | some mark => do operate mark (← readName bindings name) n
          | none => pure n
        writeName bindings name n
        return n
      | none => choice bindings fuel idle
    | _ => choice bindings fuel idle

private def choice (bindings : Bindings σ) : (fuel : Nat) → (idle : Bool) → Eval σ Int
  | 0, _ => fail "expecting primary"
  | fuel + 1, idle => do
    let test ← disjunction bindings fuel idle
    if ← passes "?" then
      let a ← assignment bindings fuel (idle || test = 0)
      unless ← passes ":" do fail "expecting ':'"
      let b ← choice bindings fuel (idle || test ≠ 0)
      return if test ≠ 0 then a else b
    return test

private def disjunction (bindings : Bindings σ) : (fuel : Nat) → (idle : Bool) → Eval σ Int
  | 0, _ => fail "expecting primary"
  | fuel + 1, idle => do
    let a ← conjunction bindings fuel idle
    if ← passes "||" then
      let b ← disjunction bindings fuel (idle || a ≠ 0)
      return truth (a ≠ 0 || b ≠ 0)
    return a

private def conjunction (bindings : Bindings σ) : (fuel : Nat) → (idle : Bool) → Eval σ Int
  | 0, _ => fail "expecting primary"
  | fuel + 1, idle => do
    let a ← operands bindings levels fuel idle
    if ← passes "&&" then
      let b ← conjunction bindings fuel (idle || a = 0)
      return truth (a ≠ 0 && b ≠ 0)
    return a

/-- Operands joined by the operators of the given levels. -/
private def operands (bindings : Bindings σ) (levels : List (List String)) :
    (fuel : Nat) → (idle : Bool) → Eval σ Int
  | 0, _ => fail "expecting primary"
  | fuel + 1, idle =>
    match levels with
    | [] => primary bindings fuel idle
    | marks :: tighter => do
      let a ← operands bindings tighter fuel idle
      joined bindings marks tighter a fuel idle

/-- What is joined to a value by the operators of one level. -/
private def joined (bindings : Bindings σ) (marks : List String) (tighter : List (List String))
    (a : Int) : (fuel : Nat) → (idle : Bool) → Eval σ Int
  | 0, _ => fail "expecting primary"
  | fuel + 1, idle => do
    match ← peek with
    | some (.operator mark) =>
      if marks.contains mark then
        advance
        let b ← operands bindings tighter fuel idle
        let a ← if idle then pure b else operate mark a b
        joined bindings marks tighter a fuel idle
      else return a
    | _ => return a

/-- A number, a variable, a signed operand or an expression in parentheses. -/
private def primary (bindings : Bindings σ) : (fuel : Nat) → (idle : Bool) → Eval σ Int
  | 0, _ => fail "expecting primary"
  | fuel + 1, idle => do
    match ← peek with
    | some (.number n) =>
      advance
      return n
    | some (.name name) =>
      advance
      if idle then return 0
      readName bindings name
    | some (.operator "+") =>
      advance
      primary bindings fuel idle
    | some (.operator "-") =>
      advance
      return Whole.wrap (-(← primary bindings fuel idle))
    | some (.operator "!") =>
      advance
      return truth ((← primary bindings fuel idle) = 0)
    | some (.operator "~") =>
      advance
      return -(← primary bindings fuel idle) - 1
    | some (.operator "(") =>
      advance
      let n ← assignment bindings fuel idle
      unless ← passes ")" do fail "expecting ')'"
      return n
    | _ => fail "expecting primary"

end

/-- The value of an expression, and the state with what it has assigned. -/
def evaluate (bindings : Bindings σ) (s : σ) (expression : Text) : Except Failure (Int × σ) := do
  let ts := tokens (expression.length + 1) expression
  let (n, (rest, s)) ← (assignment bindings (16 * ts.length + 32) false).run (ts, s)
  if rest ≠ [] then throw (.expression "expecting EOF")
  return (n, s)

end Handoff.Shell.Arithmetic

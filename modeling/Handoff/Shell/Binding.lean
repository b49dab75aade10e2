import Handoff.Shell.Grammar

/-!
The variables of a shell.

A variable may be exported or read-only without having a value. Some variables stay known to a
shell whatever happens to them. `Bindings.set` gives a value and refuses where a variable must stay
as it is.
-/

namespace Handoff.Shell

structure Binding where
  value : Option Text
  exported : Bool
  readonly : Bool
  deriving DecidableEq, Repr

/-- Variables by their names. -/
abbrev Bindings := List (String × Binding)

namespace Bindings

/-- The variables that a shell never forgets. -/
def lasting : List String :=
  ["IFS", "MAIL", "MAILPATH", "OPTIND", "PATH", "PS1", "PS2", "PS4"]

def value? (bs : Bindings) (name : String) : Option Text := (bs.lookup name).bind (·.value)

def put (bs : Bindings) (name : String) (binding : Binding) : Bindings :=
  (name, binding) :: bs.filter (·.1 ≠ name)

def erase (bs : Bindings) (name : String) : Bindings := bs.filter (·.1 ≠ name)

/-- Gives a variable a value or takes it away, and perhaps marks it; none if it is read-only. -/
def set? (bs : Bindings) (name : String) (value : Option Text) (exported readonly : Bool) :
    Option Bindings :=
  match bs.lookup name with
  | some b =>
    if b.readonly then none
    else if value.isNone && !exported && !readonly && !lasting.contains name then
      some (bs.erase name)
    else
      some (bs.put name ⟨value, b.exported || exported, readonly⟩)
  | none =>
    if value.isNone && !exported && !readonly then some bs
    else some (bs.put name ⟨value, exported, readonly⟩)

/-- Marks a variable that is known. -/
def mark (bs : Bindings) (name : String) (exported readonly : Bool) : Bindings :=
  bs.map fun (other, b) =>
    if other = name then
      (other, { b with exported := b.exported || exported, readonly := b.readonly || readonly })
    else (other, b)

/-- The variables that other programs are started with. -/
def environment (bs : Bindings) : List (Bytes × Bytes) :=
  bs.filterMap fun (name, b) => do
    let value ← if b.exported then b.value else none
    return (Bytes.ofOctets name.toList, Bytes.ofOctets value)

end Bindings

/-! ### Listings -/

/-- A text between quotes that a shell reads back; single quotes in it stand between double
ones. -/
def quoteText (text : Text) : Text :=
  let rec go : (fuel : Nat) → Text → Text
    | 0, _ => []
    | fuel + 1, cs =>
      let front := cs.takeWhile (· ≠ '\'')
      let rest := cs.drop front.length
      let quotes := rest.takeWhile (· = '\'')
      '\'' :: front ++ ['\''] ++
        (if quotes = [] then [] else
          '"' :: quotes ++ ['"'] ++
            if rest.drop quotes.length = [] then [] else go fuel (rest.drop quotes.length))
  go (text.length + 1) text

/-- The variables of a selection, a line each. -/
def Bindings.listing (bs : Bindings) (front : String) (p : Binding → Bool) : Text :=
  let shown :=
    (bs.filter fun (_, b) => p b).mergeSort fun a b => Text.isBefore a.1.toList b.1.toList
  shown.flatMap fun (name, b) =>
    let value :=
      match b.value with
      | some value => '=' :: quoteText value
      | none => []
    front.toList ++ (if front = "" then [] else [' ']) ++ name.toList ++ value ++ ['\n']

end Handoff.Shell

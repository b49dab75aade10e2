import Handoff.Utf8

/-! The variables that a program is started with. Their values are bytes and need not be text. -/

namespace Handoff

structure Environment where
  bindings : List (String × Bytes)
  deriving DecidableEq, Repr

namespace Environment

def empty : Environment := ⟨[]⟩

instance : EmptyCollection Environment := ⟨empty⟩

/-- The value of a variable. -/
def value? (env : Environment) (name : String) : Option Bytes := env.bindings.lookup name

/-- Whether a variable is set, be it to the empty value. -/
def isSet (env : Environment) (name : String) : Bool := (env.value? name).isSome

/-- The value of a variable as text; one that is not UTF-8 counts as unset. -/
def text? (env : Environment) (name : String) : Option String :=
  ((env.value? name).bind Utf8.decode?).map String.ofList

/-- An environment with a variable set anew. -/
def assign (env : Environment) (name : String) (value : Bytes) : Environment :=
  ⟨(name, value) :: env.bindings⟩

@[simp] theorem value?_assign_self (env : Environment) (name : String) (value : Bytes) :
    (env.assign name value).value? name = some value := by simp [value?, assign]

theorem value?_assign_of_ne {env : Environment} {name other : String} {value : Bytes}
    (h : other ≠ name) : (env.assign name value).value? other = env.value? other := by
  have hname : (other == name) = false := by simpa using h
  simp [value?, assign, List.lookup_cons, hname]

theorem text?_congr {env other : Environment} {name : String}
    (h : env.value? name = other.value? name) : env.text? name = other.text? name := by
  rw [text?, text?, h]

end Environment

end Handoff

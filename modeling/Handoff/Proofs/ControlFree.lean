import Handoff.Log.Stamp
import Handoff.Program
import Handoff.Proofs.QuotedReading
import Handoff.Proofs.RunnerStarts

/-!
# Lines without control characters

Quoting escapes every control character of ASCII, and its escapes are made of letters, digits and
braces (`Quoted.controlFree_bytes`). So a described command line holds none, whatever its parts are
and whichever characters beyond ASCII are shown.

In the line of the log that shows a command line, what stands in front of it is the same for all
command lines (`Message.renderWith_delegating`). It belongs to the layout. On a terminal a layout
sets styles there, which are escape sequences; what is left of the line without them is the line as
it stands elsewhere (`Library.LogsLines`).
-/

namespace Handoff

namespace Text

/-- Whether a character is a control character of ASCII. -/
def isControl (c : Char) : Bool := c.toNat < 0x20 || c.toNat == 0x7f

/-- A text without control characters. -/
def ControlFree (cs : List Char) : Prop := ∀ c ∈ cs, isControl c = false

instance (cs : List Char) : Decidable (ControlFree cs) := List.decidableBAll _ cs

variable {cs ds : List Char} {c : Char}

theorem isControl_digitChar : ∀ n < 16, isControl n.digitChar = false := by decide

namespace ControlFree

theorem nil : ControlFree [] := List.forall_mem_nil _

theorem cons (hc : isControl c = false) (hcs : ControlFree cs) : ControlFree (c :: cs) :=
  List.forall_mem_cons.mpr ⟨hc, hcs⟩

theorem append (hcs : ControlFree cs) (hds : ControlFree ds) : ControlFree (cs ++ ds) :=
  List.forall_mem_append.mpr ⟨hcs, hds⟩

theorem flatMap {α : Type} {f : α → List Char} {items : List α}
    (h : ∀ item ∈ items, ControlFree (f item)) : ControlFree (items.flatMap f) := by
  intro c hc
  obtain ⟨item, hitem, hc⟩ := List.mem_flatMap.mp hc
  exact h item hitem c hc

theorem intercalate {sep : List Char} {parts : List (List Char)} (hsep : ControlFree sep)
    (hparts : ∀ part ∈ parts, ControlFree part) : ControlFree (sep.intercalate parts) := by
  induction parts with
  | nil => exact .nil
  | cons part parts ih =>
    obtain ⟨hpart, hparts⟩ := List.forall_mem_cons.mp hparts
    cases parts with
    | nil => rwa [List.intercalate_singleton]
    | cons next parts =>
      rw [List.intercalate_cons_cons]
      exact (hpart.append hsep).append (ih hparts)

theorem toDigits {base : Nat} (hbase : 1 < base) (hle : base ≤ 16) (n : Nat) :
    ControlFree (Nat.toDigits base n) := by
  induction n using Nat.strongRecOn with
  | ind n ih =>
    obtain hlt | hge := Nat.lt_or_ge n base
    · rw [Nat.toDigits_of_lt_base hlt]
      exact List.forall_mem_singleton.mpr (isControl_digitChar n (by omega))
    · rw [Nat.toDigits_of_base_le hbase hge]
      have hdigit : n % base < 16 := Nat.lt_of_lt_of_le (Nat.mod_lt n (by omega)) hle
      exact (ih (n / base) (Nat.div_lt_self (by omega) hbase)).append
        (List.forall_mem_singleton.mpr (isControl_digitChar _ hdigit))

end ControlFree

/-! ### Styles -/

end Text

open Text (ControlFree isControl)

/-! ### Quoted texts -/

namespace Quoted

variable {style : Style} {visible : Char → Bool} {c : Char}

end Quoted

namespace CommandLine

end CommandLine

/-! ### Time stamps and layouts -/

namespace Log

namespace Layout

end Layout

end Log

/-- Whether a byte is a control character of ASCII. -/
def Bytes.isControl (b : UInt8) : Bool := b < 0x20 || b == 0x7f

namespace Utf8

variable {b : UInt8} {c : Char} {cs : List Char}

end Utf8

namespace Message

variable {library : Library} {stamp : String}

variable {command : CommandLine} {rest : List Char}

end Message

end Handoff

import Handoff.Bytes

/-!
Texts measured and cut in the bytes of their encoding.

A cut at an offset that lies inside a character gives no text, so `dropBytes?` and `takeBytes?`
answer only where a character begins or the text ends.
-/

namespace Handoff.Text

/-- How many bytes the encoding of a text has. -/
def byteLength : List Char → Nat
  | [] => 0
  | c :: cs => c.utf8Size + byteLength cs

/-- What follows the first `n` bytes. -/
def dropBytes? : Nat → List Char → Option (List Char)
  | 0, cs => some cs
  | _ + 1, [] => none
  | n + 1, c :: cs => if c.utf8Size ≤ n + 1 then dropBytes? (n + 1 - c.utf8Size) cs else none

/-- The first `n` bytes. -/
def takeBytes? : Nat → List Char → Option (List Char)
  | 0, _ => some []
  | _ + 1, [] => none
  | n + 1, c :: cs =>
    if c.utf8Size ≤ n + 1 then (takeBytes? (n + 1 - c.utf8Size) cs).map (c :: ·) else none

/-- The bytes from one offset up to another. -/
def slice? (cs : List Char) (start stop : Nat) : Option (List Char) :=
  (dropBytes? start cs).bind (takeBytes? (stop - start))

@[simp] theorem byteLength_nil : byteLength [] = 0 := rfl

@[simp] theorem byteLength_cons (c : Char) (cs : List Char) :
    byteLength (c :: cs) = c.utf8Size + byteLength cs := rfl

theorem dropBytes?_byteLength_append (cs rest : List Char) :
    dropBytes? (byteLength cs) (cs ++ rest) = some rest := by
  induction cs with
  | nil => simp [dropBytes?]
  | cons c cs ih =>
    have hpos := c.utf8Size_pos
    obtain ⟨n, hn⟩ : ∃ n, c.utf8Size + byteLength cs = n + 1 := ⟨_, (by omega :
      c.utf8Size + byteLength cs = (c.utf8Size + byteLength cs - 1) + 1)⟩
    rw [byteLength_cons, List.cons_append, hn, dropBytes?, if_pos (by omega), ← ih]
    congr 1
    omega

theorem takeBytes?_byteLength_append (cs rest : List Char) :
    takeBytes? (byteLength cs) (cs ++ rest) = some cs := by
  induction cs with
  | nil => simp [takeBytes?]
  | cons c cs ih =>
    have hpos := c.utf8Size_pos
    obtain ⟨n, hn⟩ : ∃ n, c.utf8Size + byteLength cs = n + 1 := ⟨_, (by omega :
      c.utf8Size + byteLength cs = (c.utf8Size + byteLength cs - 1) + 1)⟩
    rw [byteLength_cons, List.cons_append, hn, takeBytes?, if_pos (by omega),
      (by omega : n + 1 - c.utf8Size = byteLength cs), ih, Option.map_some]

end Handoff.Text

import Handoff.Bytes

/-!
Byte strings read one character a byte, for formats whose marks are all ASCII.

`Bytes.octets` and `Bytes.ofOctets` go from bytes to such characters and back; nothing is decoded,
so bytes beyond ASCII pass through unchanged.
-/

namespace Handoff.Bytes

/-- The bytes of a string, each as the character of its number. -/
def octets (bytes : Bytes) : List Char := bytes.map fun b => Char.ofNat b.toNat

/-- The bytes with the numbers of some characters. -/
def ofOctets (cs : List Char) : Bytes := cs.map fun c => UInt8.ofNat c.toNat

/-- The bytes of a string as a name to be compared with others. -/
def label (bytes : Bytes) : String := String.ofList bytes.octets

private theorem toNat_ofNat_octet : ∀ n < 256, (Char.ofNat n).toNat = n := by decide +kernel

private theorem ofNat_toNat_octet (b : UInt8) : UInt8.ofNat (Char.ofNat b.toNat).toNat = b := by
  rw [toNat_ofNat_octet _ b.toNat_lt, UInt8.ofNat_toNat]

end Handoff.Bytes

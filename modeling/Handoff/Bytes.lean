/-! Byte strings, and the bytes of a text. -/

namespace Handoff

abbrev Bytes := List UInt8

namespace Bytes

/-- The UTF-8 encoding of a text. -/
def ofChars (cs : List Char) : Bytes := cs.flatMap String.utf8EncodeChar

/-- The UTF-8 encoding of a string. -/
def ofString (s : String) : Bytes := ofChars s.toList

/-- The byte that ends a line. -/
def newline : UInt8 := 0x0a

/-- The byte that parts the arguments of a line. -/
def space : UInt8 := 0x20

@[simp] theorem ofChars_cons (c : Char) (cs : List Char) :
    ofChars (c :: cs) = String.utf8EncodeChar c ++ ofChars cs := rfl

end Bytes

end Handoff

import Handoff.Bytes

/-!
UTF-8 read from left to right.

`Utf8.segments` cuts any byte string into well-formed sequences and malformed runs. A sequence is
read byte by byte: its first byte says which ranges the following bytes must fall in, and an
`Opening` holds what has been read and what is still due. A byte outside the range that is due
closes the run as malformed and starts afresh, so a malformed run is the longest start of a
sequence that its bytes allow, and a byte that can begin a sequence is never swallowed.

The ranges leave out overlong forms, surrogates and everything above U+10FFFF.
-/

namespace Handoff.Utf8

/-- A closed range of bytes. -/
structure ByteRange where
  first : UInt8
  last : UInt8
  deriving DecidableEq, Repr

def ByteRange.contains (range : ByteRange) (b : UInt8) : Bool := range.first ≤ b && b ≤ range.last

/-- The bytes that continue a sequence where its first byte puts no tighter bound. -/
def ByteRange.continuation : ByteRange := ⟨0x80, 0xbf⟩

/-- A sequence of more than one byte that has begun and is not complete. -/
structure Opening where
  /-- The bytes read so far. -/
  seen : Bytes
  /-- The leading bits of the code point, as far as they are known. -/
  bits : Nat
  /-- Where the next byte must fall. -/
  due : ByteRange
  /-- Where the bytes after the next one must fall. -/
  later : List ByteRange
  deriving DecidableEq, Repr

/-- The sequence that a first byte opens, if it opens one of more than one byte. -/
def Opening.ofLead? (b : UInt8) : Option Opening :=
  if 0xc2 ≤ b && b ≤ 0xdf then some ⟨[b], b.toNat - 0xc0, .continuation, []⟩
  else if b = 0xe0 then some ⟨[b], 0, ⟨0xa0, 0xbf⟩, [.continuation]⟩
  else if b = 0xed then some ⟨[b], 0xd, ⟨0x80, 0x9f⟩, [.continuation]⟩
  else if 0xe1 ≤ b && b ≤ 0xef then some ⟨[b], b.toNat - 0xe0, .continuation, [.continuation]⟩
  else if b = 0xf0 then some ⟨[b], 0, ⟨0x90, 0xbf⟩, [.continuation, .continuation]⟩
  else if 0xf1 ≤ b && b ≤ 0xf3 then
    some ⟨[b], b.toNat - 0xf0, .continuation, [.continuation, .continuation]⟩
  else if b = 0xf4 then some ⟨[b], 4, ⟨0x80, 0x8f⟩, [.continuation, .continuation]⟩
  else none

/-- A piece of a byte string: a character, or bytes that encode none. -/
inductive Segment where
  | char (c : Char)
  | malformed (bytes : Bytes)
  deriving DecidableEq, Repr

/-- The bytes that a segment stands for. -/
def Segment.bytes : Segment → Bytes
  | .char c => String.utf8EncodeChar c
  | .malformed bytes => bytes

/-- Reads a byte where no sequence is open. -/
def start (b : UInt8) : List Segment × Option Opening :=
  if b < 0x80 then ([.char (Char.ofNat b.toNat)], none)
  else match Opening.ofLead? b with
    | some opening => ([], some opening)
    | none => ([.malformed [b]], none)

/-- Reads a byte in an open sequence. -/
def Opening.feed (o : Opening) (b : UInt8) : List Segment × Option Opening :=
  if o.due.contains b then
    let bits := o.bits * 64 + b.toNat % 64
    match o.later with
    | [] => ([.char (Char.ofNat bits)], none)
    | due :: later => ([], some ⟨o.seen ++ [b], bits, due, later⟩)
  else
    let (out, next) := start b
    (.malformed o.seen :: out, next)

/-- Reads one byte: the segments that it completes, and the sequence that is open after it. -/
def step : Option Opening → UInt8 → List Segment × Option Opening
  | none, b => start b
  | some o, b => o.feed b

/-- The end of the input closes an open sequence as malformed. -/
def close : Option Opening → List Segment
  | none => []
  | some o => [.malformed o.seen]

/-- The segments of a byte string that is read with a sequence possibly open. -/
def segmentsFrom (state : Option Opening) : Bytes → List Segment
  | [] => close state
  | b :: bytes => (step state b).1 ++ segmentsFrom (step state b).2 bytes

/-- The segments of a byte string. -/
def segments (bytes : Bytes) : List Segment := segmentsFrom none bytes

/-- What stands for a malformed run where text is wanted. -/
def replacement : Char := '\uFFFD'

/-- The character that shows a segment. -/
def Segment.shown : Segment → Char
  | .char c => c
  | .malformed _ => replacement

/-- The character of a segment, unless it is malformed. -/
def Segment.char? : Segment → Option Char
  | .char c => some c
  | .malformed _ => none

/-- Decodes any byte string, with one `replacement` for each malformed run. -/
def decodeLossy (bytes : Bytes) : List Char := (segments bytes).map Segment.shown

/-- Decodes a byte string in which every segment is a character. -/
def decode? (bytes : Bytes) : Option (List Char) := (segments bytes).mapM Segment.char?

@[simp] theorem segments_nil : segments [] = [] := rfl

theorem segmentsFrom_cons (state : Option Opening) (b : UInt8) (bytes : Bytes) :
    segmentsFrom state (b :: bytes) =
      (step state b).1 ++ segmentsFrom (step state b).2 bytes := rfl

/-- A byte below 0x80 is a segment of its own, whatever stands before it. -/
theorem segmentsFrom_ascii (state : Option Opening) {b : UInt8} (hb : b < 0x80) (bytes : Bytes)
    (hdue : ∀ o, state = some o → o.due.contains b = false) :
    segmentsFrom state (b :: bytes) =
      close state ++ .char (Char.ofNat b.toNat) :: segments bytes := by
  cases state with
  | none => simp [segmentsFrom, step, start, hb, close, segments]
  | some o => simp [segmentsFrom, step, Opening.feed, hdue o rfl, start, hb, close, segments]

end Handoff.Utf8

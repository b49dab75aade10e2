import Handoff.Bytes
import Handoff.Fault

/-!
Where the echo goes: an output that may be slow, be interrupted, fill up or fail.

A single `Sink.write` offers some bytes and is answered by how many of them were taken, by an
interruption or by a fault. `Sink.writeAll` goes on until every byte is taken: it offers the rest
again after a short write, tries again after an interruption and stops at a fault or at a write
that takes nothing. Each round either takes a byte or uses up an interruption, so the loop ends.
-/

namespace Handoff

structure Sink where
  /-- How many bytes are taken in total; without a limit, any number. -/
  limit : Option Nat
  /-- The answer to a write at the limit. -/
  refusal : WriteFault
  /-- How many bytes one write takes at most. -/
  chunk : Option Nat
  /-- The offsets at which a write is interrupted, each once, in ascending order. -/
  interrupts : List Nat
  /-- The flushes that fail, counted from one. -/
  flushFaults : List (Nat × FlushFault)
  /-- How many bytes have been taken. -/
  offset : Nat
  /-- How many flushes have been asked for. -/
  flushes : Nat
  /-- How many writes have been asked for. -/
  writes : Nat
  deriving DecidableEq, Repr

/-- The answer to a single write. -/
inductive Reply where
  | taken (count : Nat)
  | interrupted
  | failed (fault : Fault)
  deriving DecidableEq, Repr

namespace Sink

/-- A fresh sink that takes everything at once. -/
def unbounded : Sink := ⟨none, .nothingTaken, none, [], [], 0, 0, 0⟩

/-- A fresh sink that takes nothing and answers with a fault. -/
def refusing (fault : Fault) : Sink := { unbounded with limit := some 0, refusal := .fault fault }

/-- A bound that may be absent. -/
def bounded (n : Nat) : Option Nat → Nat
  | none => n
  | some bound => min n bound

/-- The offset at which the next interruption is due, if it lies ahead. -/
def nextStop? (s : Sink) : Option Nat := s.interrupts.head?.filter (s.offset < ·)

/-- How many of `n` bytes a write takes that is neither interrupted nor at the limit. -/
def room (s : Sink) (n : Nat) : Nat :=
  bounded (bounded (bounded n s.chunk) (s.limit.map (· - s.offset)))
    (s.nextStop?.map (· - s.offset))

/-- Whether no further byte is taken. -/
def isFull (s : Sink) : Bool := s.limit.any (· ≤ s.offset)

/-- A write of `n` bytes that is not interrupted. -/
def offer (s : Sink) (n : Nat) : Reply × Sink :=
  if s.isFull then
    match s.refusal with
    | .nothingTaken => (.taken 0, s)
    | .fault fault => (.failed fault, s)
  else (.taken (s.room n), { s with offset := s.offset + s.room n })

/-- The answer to a write of `n` bytes: an interruption that is due comes first. -/
def respond (s : Sink) (n : Nat) : Reply × Sink :=
  match s.interrupts with
  | [] => s.offer n
  | stop :: stops =>
    if stop = s.offset then (.interrupted, { s with interrupts := stops }) else s.offer n

/-- One write of `n` bytes. -/
def write (s : Sink) (n : Nat) : Reply × Sink := { s with writes := s.writes + 1 }.respond n

theorem interrupts_offer (s : Sink) (n : Nat) : (s.offer n).2.interrupts = s.interrupts := by
  unfold offer
  split
  · split <;> rfl
  · rfl

theorem offer_ne_interrupted (s : Sink) (n : Nat) : (s.offer n).1 ≠ .interrupted := by
  unfold offer
  split
  · split <;> simp
  · simp

theorem interrupts_of_write_taken {s t : Sink} {n k : Nat} (h : s.write n = (.taken k, t)) :
    t.interrupts = s.interrupts := by
  have taken {u : Sink} (h : u.offer n = (.taken k, t)) : t.interrupts = u.interrupts := by
    rw [← interrupts_offer u n, h]
  rw [write, respond] at h
  split at h
  · exact (taken h :)
  · split at h
    · cases h
    · exact (taken h :)

theorem interrupts_of_write_interrupted {s t : Sink} {n : Nat}
    (h : s.write n = (.interrupted, t)) : ∃ stop, s.interrupts = stop :: t.interrupts := by
  rw [write, respond] at h
  split at h
  · exact absurd (congrArg Prod.fst h) (offer_ne_interrupted _ _)
  · next stop stops hs =>
    split at h
    · obtain ⟨-, rfl⟩ := Prod.mk.inj h
      exact ⟨stop, hs⟩
    · exact absurd (congrArg Prod.fst h) (offer_ne_interrupted _ _)

/-- What became of a text that was to be written. -/
structure Outcome where
  /-- The bytes that were taken. -/
  sent : Bytes
  result : Except WriteFault Unit
  sink : Sink

/-- Adds bytes that were taken before. -/
def Outcome.after (sent : Bytes) (rest : Outcome) : Outcome :=
  { rest with sent := sent ++ rest.sent }

/-- Writes until every byte is taken or a write fails. -/
def writeAll (s : Sink) (bytes : Bytes) : Outcome :=
  if _hbytes : bytes = [] then ⟨[], .ok (), s⟩
  else
    match hwrite : s.write bytes.length with
    | (.interrupted, t) => t.writeAll bytes
    | (.failed fault, t) => ⟨[], .error (.fault fault), t⟩
    | (.taken 0, t) => ⟨[], .error .nothingTaken, t⟩
    | (.taken (k + 1), t) => (t.writeAll (bytes.drop (k + 1))).after (bytes.take (k + 1))
termination_by bytes.length + s.interrupts.length
decreasing_by
  · obtain ⟨stop, hs⟩ := interrupts_of_write_interrupted hwrite
    simp [hs]
  · have hpos := List.length_pos_iff.2 _hbytes
    simp only [List.length_drop, interrupts_of_write_taken hwrite]
    omega

/-- Writes a text and then, if all of it was taken, the end of the line. -/
def writeLine (s : Sink) (text : Bytes) : Outcome :=
  let first := s.writeAll text
  match first.result with
  | .error fault => ⟨first.sent, .error fault, first.sink⟩
  | .ok () => (first.sink.writeAll [Bytes.newline]).after first.sent

/-- Asks for everything written so far to be passed on. -/
def flush (s : Sink) : Except FlushFault Unit × Sink :=
  let s := { s with flushes := s.flushes + 1 }
  match s.flushFaults.lookup s.flushes with
  | some fault => (.error fault, s)
  | none => (.ok (), s)

end Sink

end Handoff

import Handoff.Proofs.EchoStream

/-!
# How many writes a line takes

`Sink.Writing` is a line on its way into a sink, and `Sink.Writing.round` is one write of it. The
rounds of a line come to what `Sink.writeLine` comes to, and then there is none left
(`Sink.Writing.after_writeLine`).

A round need not take a byte, so the bytes alone do not bound the rounds. Each round takes a byte,
uses up an interruption or is the last one; `Sink.Spent` adds this up. That each interruption is
used up in its turn is the invariant `Sink.InBounds`: the offset has passed neither the limit nor an
interruption that is left. A write keeps it (`Sink.InBounds.write`), so it holds at every round, and
of every sink that a run can come to (`Sink.Reachable.inBounds`).
-/

namespace Handoff

/-- How many refusals a reply is: one, if nothing is taken and nothing is tried again. -/
def Reply.refusals : Reply → Nat
  | .failed _ | .taken 0 => 1
  | .interrupted | .taken (_ + 1) => 0

namespace Sink

/-- The offset has passed neither the limit nor an interruption that is left. -/
structure InBounds (s : Sink) : Prop where
  sorted : s.interrupts.Pairwise (· ≤ ·)
  le_limit : ∀ limit ∈ s.limit, s.offset ≤ limit
  le_stop : ∀ stop ∈ s.interrupts, s.offset ≤ stop

/-- `t` is what `count` writes have made of `s`. Each of them took a byte, used up an interruption
or was refused. -/
structure Spent (s t : Sink) (count refused : Nat) : Prop where
  limit : t.limit = s.limit
  writes : t.writes = s.writes + count
  count_le : ∃ (taken : Nat) (used : List Nat), t.offset = s.offset + taken ∧
    s.interrupts = used ++ t.interrupts ∧ count ≤ taken + used.length + refused

variable {s t u : Sink} {n m refused later : Nat} {bytes : Bytes} {pieces : List Bytes}
  {fault : WriteFault}

/-! ### One write -/

theorem room_le_stop {stop : Nat} (hstop : s.nextStop? = some stop) (n : Nat) :
    s.room n ≤ stop - s.offset := by
  simp only [room, hstop, Option.map_some, bounded]
  exact Nat.min_le_right _ _

theorem room_le_limit {limit : Nat} (hlimit : s.limit = some limit) (n : Nat) :
    s.room n ≤ limit - s.offset := by
  have hroom := capacity_room s n
  rw [capacity_of_limit hlimit] at hroom
  omega

/-- An interruption that is not due lies ahead, and bounds the next write. -/
theorem InBounds.add_room_le (h : s.InBounds) (hdue : s.interrupts.head? ≠ some s.offset)
    {stop : Nat} (hstop : stop ∈ s.interrupts) (n : Nat) : s.offset + s.room n ≤ stop := by
  obtain ⟨first, stops, hstops⟩ := List.exists_cons_of_ne_nil (List.ne_nil_of_mem hstop)
  have hsorted := h.sorted
  have hle := h.le_stop first (by simp [hstops])
  rw [hstops] at hdue hstop hsorted
  have hne : first ≠ s.offset := fun heq => hdue (congrArg some heq)
  have hnext : s.nextStop? = some first := by
    simp only [nextStop?, hstops, List.head?_cons, Option.filter_some, decide_eq_true_eq]
    rw [if_pos (by omega)]
  have hroom := room_le_stop hnext n
  have hfirst : first ≤ stop := by
    rcases List.mem_cons.mp hstop with rfl | hmem
    · exact Nat.le_refl _
    · exact List.rel_of_pairwise_cons hsorted hmem
  omega

theorem InBounds.write (h : s.InBounds) (n : Nat) : (s.write n).2.InBounds := by
  rw [write_eq]
  split
  · exact ⟨h.sorted.tail, h.le_limit, fun stop hstop => h.le_stop stop (List.mem_of_mem_tail hstop)⟩
  next hdue =>
    split
    · exact ⟨h.sorted, h.le_limit, h.le_stop⟩
    · refine ⟨h.sorted, fun limit hlimit => ?_, fun stop hstop => h.add_room_le hdue hstop n⟩
      have hroom := room_le_limit (s := s) hlimit n
      have hle := h.le_limit limit hlimit
      dsimp only
      omega

namespace Spent

theorem refl (s : Sink) : Spent s s 0 0 := ⟨rfl, rfl, 0, [], rfl, rfl, Nat.zero_le _⟩

theorem trans (h : Spent s t n refused) (h' : Spent t u m later) :
    Spent s u (n + m) (refused + later) := by
  obtain ⟨taken, used, hoffset, hused, hle⟩ := h.count_le
  obtain ⟨taken', used', hoffset', hused', hle'⟩ := h'.count_le
  refine ⟨h'.limit.trans h.limit, ?_, taken + taken', used ++ used', ?_, ?_, ?_⟩
  · rw [h'.writes, h.writes, Nat.add_assoc]
  · rw [hoffset', hoffset, Nat.add_assoc]
  · rw [hused, hused', List.append_assoc]
  · rw [List.length_append]
    omega

theorem write (s : Sink) (n : Nat) : Spent s (s.write n).2 1 (s.write n).1.refusals := by
  rw [write_eq]
  split
  next hdue =>
    obtain ⟨stops, hstops⟩ := List.head?_eq_some_iff.mp hdue
    exact ⟨rfl, rfl, 0, [s.offset], rfl, by simp [hstops], by simp⟩
  · split
    · refine ⟨rfl, rfl, 0, [], rfl, rfl, ?_⟩
      cases s.refusal <;> exact Nat.le_refl 1
    · refine ⟨rfl, rfl, s.room n, [], rfl, rfl, ?_⟩
      cases s.room n with
      | zero => exact Nat.le_refl 1
      | succ k => simp [Reply.refusals]

end Spent

/-! ### The rounds of a line -/

/-- A line on its way into a sink. -/
structure Writing where
  sink : Sink
  /-- What is left to be taken, in the pieces that are written one after another. -/
  pieces : List Bytes
  /-- The fault that has ended the work. -/
  fault? : Option WriteFault
  deriving DecidableEq, Repr

namespace Writing

/-- Pieces that are to be written. No write is made for an empty one. -/
def ofPieces (s : Sink) (pieces : List Bytes) : Writing :=
  ⟨s, pieces.filter fun piece => !piece.isEmpty, none⟩

/-- A text and the end of its line, before the first write. -/
def line (s : Sink) (text : Bytes) : Writing := ofPieces s [text, [Bytes.newline]]

/-- The work after the answer to a write of its first piece. -/
def answered (piece : Bytes) (pieces : List Bytes) : Reply × Sink → Writing
  | (.interrupted, t) => ⟨t, piece :: pieces, none⟩
  | (.failed fault, t) => ⟨t, piece :: pieces, some (.fault fault)⟩
  | (.taken 0, t) => ⟨t, piece :: pieces, some .nothingTaken⟩
  | (.taken (k + 1), t) => ofPieces t (piece.drop (k + 1) :: pieces)

/-- One write, if there is still something to write. -/
def round (w : Writing) : Option Writing :=
  match w.fault?, w.pieces with
  | none, piece :: pieces => some (answered piece pieces (w.sink.write piece.length))
  | none, [] | some _, _ => none

/-- The work after a number of writes, if there are so many. -/
def after : Nat → Writing → Option Writing
  | 0, w => some w
  | n + 1, w => w.round.bind (after n)

/-- What has become of the line so far. -/
def result (w : Writing) : Except WriteFault Unit :=
  match w.fault? with
  | none => .ok ()
  | some fault => .error fault

/-- How many of the writes were refused. -/
def refusals (w : Writing) : Nat := w.fault?.toList.length

variable {w v : Writing}

theorem sink_answered (piece : Bytes) (pieces : List Bytes) (answer : Reply × Sink) :
    (answered piece pieces answer).sink = answer.2 := by
  unfold answered
  split <;> rfl

theorem refusals_answered (piece : Bytes) (pieces : List Bytes) (answer : Reply × Sink) :
    (answered piece pieces answer).refusals = answer.1.refusals := by
  unfold answered
  split <;> rfl

theorem refusals_of_none (h : w.fault? = none) : w.refusals = 0 := by rw [refusals, h]; rfl

theorem refusals_le_one (w : Writing) : w.refusals ≤ 1 := by
  cases h : w.fault? <;> simp [refusals, h]

/-- A round is one write of the first piece. -/
theorem round_eq_some_iff : w.round = some v ↔ w.fault? = none ∧ ∃ piece pieces,
    w.pieces = piece :: pieces ∧ answered piece pieces (w.sink.write piece.length) = v := by
  rw [round]
  split
  next piece pieces hfault hpieces =>
    simp only [hfault, hpieces, Option.some.injEq, true_and, List.cons.injEq]
    exact ⟨fun h => ⟨piece, pieces, ⟨rfl, rfl⟩, h⟩, fun ⟨_, _, ⟨hpiece, hrest⟩, h⟩ => by
      rwa [← hpiece, ← hrest] at h⟩
  next hpieces => simp [hpieces]
  next hfault => simp [hfault]

theorem inBounds_round (hw : w.sink.InBounds) (h : w.round = some v) : v.sink.InBounds := by
  obtain ⟨-, piece, pieces, -, rfl⟩ := round_eq_some_iff.mp h
  rw [sink_answered]
  exact hw.write piece.length

theorem spent_round (h : w.round = some v) : Spent w.sink v.sink 1 v.refusals := by
  obtain ⟨-, piece, pieces, -, rfl⟩ := round_eq_some_iff.mp h
  rw [sink_answered, refusals_answered]
  exact .write w.sink piece.length

theorem after_succ_eq_some_iff :
    after (n + 1) w = some v ↔ ∃ next, w.round = some next ∧ after n next = some v :=
  Option.bind_eq_some_iff

theorem after_add (h : after n w = some v) (m : Nat) : after (n + m) w = after m v := by
  induction n generalizing w with
  | zero =>
    cases h
    rw [Nat.zero_add]
  | succ n ih =>
    obtain ⟨next, hnext, hrest⟩ := after_succ_eq_some_iff.mp h
    rw [Nat.add_right_comm, after, hnext, Option.bind_some, ih hrest]

theorem inBounds_after (hw : w.sink.InBounds) (h : after n w = some v) : v.sink.InBounds := by
  induction n generalizing w with
  | zero =>
    cases h
    exact hw
  | succ n ih =>
    obtain ⟨next, hnext, hrest⟩ := after_succ_eq_some_iff.mp h
    exact ih (inBounds_round hw hnext) hrest

/-- Only the last round can be refused. -/
theorem spent_after (hw : w.fault? = none) (h : after n w = some v) :
    Spent w.sink v.sink n v.refusals := by
  induction n generalizing w with
  | zero =>
    cases h
    rw [refusals_of_none hw]
    exact .refl _
  | succ n ih =>
    obtain ⟨next, hnext, hrest⟩ := after_succ_eq_some_iff.mp h
    have hfirst := spent_round hnext
    cases hfault : next.fault? with
    | none =>
      have hboth := hfirst.trans (ih hfault hrest)
      rwa [refusals_of_none hfault, Nat.add_comm 1 n, Nat.zero_add] at hboth
    | some fault =>
      -- A refused round is followed by none, so it is the last one counted.
      cases n with
      | zero =>
        cases hrest
        exact hfirst
      | succ n =>
        obtain ⟨_, hmore, -⟩ := after_succ_eq_some_iff.mp hrest
        obtain ⟨hnone, -⟩ := round_eq_some_iff.mp hmore
        rw [hfault] at hnone
        cases hnone

/-! ### The rounds against the loops -/

theorem round_of_result (h : w.result = .error fault) : w.round = none := by
  rw [result] at h
  split at h
  · cases h
  next hfault => simp [round, hfault]

theorem round_ofPieces (hbytes : bytes ≠ []) :
    (ofPieces s (bytes :: pieces)).round = some
      (answered bytes (ofPieces s pieces).pieces (s.write bytes.length)) := by
  simp [ofPieces, round, hbytes]

theorem ofPieces_cons (hbytes : bytes ≠ []) :
    ofPieces t (bytes :: pieces) = ⟨t, bytes :: (ofPieces s pieces).pieces, none⟩ := by
  simp [ofPieces, hbytes]

theorem ofPieces_cons_pieces :
    ofPieces t (bytes :: (ofPieces s pieces).pieces) = ofPieces t (bytes :: pieces) := by
  simp [ofPieces, List.filter_cons]

/-- The rounds of the first piece come to what its loop comes to, and leave the other pieces. -/
theorem after_writeAll (s : Sink) (bytes : Bytes) (pieces : List Bytes) :
    ∃ n w, after n (ofPieces s (bytes :: pieces)) = some w ∧
      w.sink = (s.writeAll bytes).sink ∧ w.result = (s.writeAll bytes).result ∧
      ((s.writeAll bytes).result = .ok () → w = ofPieces (s.writeAll bytes).sink pieces) := by
  fun_induction writeAll s bytes with
  | case1 s => exact ⟨0, _, rfl, rfl, rfl, fun _ => rfl⟩
  | case2 s bytes hbytes t hwrite ih =>
    obtain ⟨n, w, hafter, hend⟩ := ih
    refine ⟨n + 1, w, after_succ_eq_some_iff.mpr ⟨_, round_ofPieces hbytes, ?_⟩, hend⟩
    rwa [hwrite, answered, ← ofPieces_cons hbytes]
  | case3 s bytes hbytes fault t hwrite =>
    refine ⟨1, _, after_succ_eq_some_iff.mpr ⟨_, round_ofPieces hbytes, rfl⟩, ?_⟩
    rw [hwrite]
    refine ⟨rfl, rfl, fun h => ?_⟩
    cases h
  | case4 s bytes hbytes t hwrite =>
    refine ⟨1, _, after_succ_eq_some_iff.mpr ⟨_, round_ofPieces hbytes, rfl⟩, ?_⟩
    rw [hwrite]
    refine ⟨rfl, rfl, fun h => ?_⟩
    cases h
  | case5 s bytes hbytes k t hwrite ih =>
    obtain ⟨n, w, hafter, hend⟩ := ih
    refine ⟨n + 1, w, after_succ_eq_some_iff.mpr ⟨_, round_ofPieces hbytes, ?_⟩, hend⟩
    rwa [hwrite, answered, ofPieces_cons_pieces]

/-- **The rounds of a line end**, and come to what its two loops come to. -/
theorem after_writeLine (s : Sink) (text : Bytes) :
    ∃ n w, after n (line s text) = some w ∧ w.round = none ∧
      w.sink = (s.writeLine text).sink ∧ w.result = (s.writeLine text).result := by
  obtain ⟨n, w, hafter, hsink, hresult, hrest⟩ := after_writeAll s text [[Bytes.newline]]
  cases hfirst : (s.writeAll text).result with
  | error fault =>
    rw [hfirst] at hresult
    rw [writeLine_of_error hfirst, hfirst]
    exact ⟨n, w, hafter, round_of_result hresult, hsink, hresult⟩
  | ok =>
    obtain ⟨m, v, hafter', hsink', hresult', hrest'⟩ :=
      after_writeAll (s.writeAll text).sink [Bytes.newline] []
    rw [← hrest hfirst, ← after_add hafter] at hafter'
    rw [writeLine_of_ok hfirst]
    refine ⟨n + m, v, hafter', ?_, hsink', hresult'⟩
    cases hsecond : ((s.writeAll text).sink.writeAll [Bytes.newline]).result with
    | error fault => exact round_of_result (hresult'.trans hsecond)
    | ok =>
      rw [hrest' hsecond]
      rfl

end Writing

end Sink

/-! ### The sinks of a run -/

section

variable {σ ε : Type} {facility : Facility σ ε} {args : List Bytes} {sink : Sink} {state : σ}
  {done : HandOver σ ε}

/-- The offset counts the bytes that a hand-over wrote. -/
theorem HandOver.Course.offset_eq (h : Course facility args sink state done) :
    done.sink.offset = sink.offset + (Event.written done.events).length := by
  obtain ⟨-, -, hoffset⟩ := h.advances
  have hle : sink.lineCapacity args ≤ (echoLine args).length := sink.capacity_le _
  rw [hoffset, h.writes.1, List.length_take_of_le hle]

/-- A hand-over leaves its sink as its line does, apart from the count of flushes. -/
theorem handOver_sink (facility : Facility σ ε) (args : List Bytes) (sink : Sink) (state : σ) :
    ∃ flushes, (handOver facility args sink state).sink =
      { (sink.writeLine (echoBytes args)).sink with flushes } := by
  cases hline : (sink.writeLine (echoBytes args)).result with
  | error fault =>
    rw [handOver_of_write_error hline]
    exact ⟨_, rfl⟩
  | ok =>
    have hflush := Sink.flush_eq (sink.writeLine (echoBytes args)).sink
    cases hfault : (sink.writeLine (echoBytes args)).sink.nextFlushFault? with
    | some fault =>
      rw [hfault] at hflush
      rw [handOver_of_flush_error hline hflush]
      exact ⟨_, rfl⟩
    | none =>
      rw [hfault] at hflush
      rw [handOver_of_flush_ok hline hflush]
      exact ⟨_, rfl⟩

namespace Sink

theorem InBounds.handOver (h : sink.InBounds) :
    (handOver facility args sink state).sink.InBounds := by
  obtain ⟨n, last, hafter, -, hlast, -⟩ := Writing.after_writeLine sink (echoBytes args)
  have hbounds := Writing.inBounds_after (w := .line sink (echoBytes args)) h hafter
  obtain ⟨flushes, hsink⟩ := handOver_sink facility args sink state
  rw [hsink, ← hlast]
  exact ⟨hbounds.sorted, hbounds.le_limit, hbounds.le_stop⟩

/-- The sinks that a run can come to: one that nothing has been written to, whose chunks are not
empty and whose interruptions are in order, and what hand-overs make of it. -/
inductive Reachable : Sink → Prop
  | fresh {s : Sink} (hadvancing : s.Advancing) (hsorted : s.interrupts.Pairwise (· ≤ ·))
      (hoffset : s.offset = 0) (hflushes : s.flushes = 0) (hwrites : s.writes = 0) : Reachable s
  | handOver {σ ε : Type} (facility : Facility σ ε) (args : List Bytes) (state : σ) {s : Sink}
      (h : Reachable s) : Reachable (handOver facility args s state).sink

theorem Reachable.advancing (h : sink.Reachable) : sink.Advancing := by
  induction h with
  | fresh hadvancing => exact hadvancing
  | handOver facility args state _ ih =>
    exact ih.of_chunk (handOver_course facility args ih state).chunk

theorem Reachable.inBounds (h : sink.Reachable) : sink.InBounds := by
  induction h with
  | fresh _ hsorted hoffset =>
    refine ⟨hsorted, fun limit _ => ?_, fun stop _ => ?_⟩
    · exact Nat.le_trans (Nat.le_of_eq hoffset) (Nat.zero_le limit)
    · exact Nat.le_trans (Nat.le_of_eq hoffset) (Nat.zero_le stop)
  | handOver _ _ _ _ ih => exact ih.handOver

end Sink

end

open Sink (Writing)

/-- **A line takes few writes.** At any sink that a run can come to, the rounds of a line end, in
what a hand-over makes of its line. There are at most as many of them as bytes were taken and
interruptions used up, and one more. So it is after any number of rounds, and there the offset has
passed neither the limit nor the first interruption that is left. -/
theorem handOver_rounds {σ ε : Type} (facility : Facility σ ε) (args : List Bytes) (sink : Sink)
    (state : σ) (hsink : sink.Reachable) :
    let done := handOver facility args sink state
    let start := Writing.line sink (echoBytes args)
    (∃ count last, Writing.after count start = some last ∧ last.round = none ∧
      last.sink = (sink.writeLine (echoBytes args)).sink ∧
      last.result = (sink.writeLine (echoBytes args)).result ∧
      done.sink.writes = sink.writes + count ∧
      ∃ used, sink.interrupts = used ++ done.sink.interrupts ∧
        count ≤ (Event.written done.events).length + used.length + 1) ∧
    ∀ count w, Writing.after count start = some w →
      (∀ limit ∈ sink.limit, w.sink.offset ≤ limit) ∧
      (∀ stop ∈ w.sink.interrupts.head?, w.sink.offset ≤ stop) ∧
      w.sink.writes = sink.writes + count ∧
      ∃ (taken : Nat) (used : List Nat), w.sink.offset = sink.offset + taken ∧
        sink.interrupts = used ++ w.sink.interrupts ∧ count ≤ taken + used.length + 1 := by
  intro done start
  have hspent {count : Nat} {w : Writing} (hafter : Writing.after count start = some w) :
      Sink.Spent sink w.sink count w.refusals := Writing.spent_after (w := start) rfl hafter
  constructor
  · obtain ⟨count, last, hafter, hend, hlast, hresult⟩ :=
      Writing.after_writeLine sink (echoBytes args)
    obtain ⟨-, hwrites, taken, used, hoffset, hused, hle⟩ := hspent hafter
    obtain ⟨flushes, hdone⟩ := handOver_sink facility args sink state
    rw [← hlast] at hdone
    have htaken : (Event.written done.events).length = taken := by
      have hwritten := (handOver_course facility args hsink.advancing state).offset_eq
      rw [hdone] at hwritten
      exact Nat.add_left_cancel (hwritten.symm.trans hoffset)
    have hrefusals := last.refusals_le_one
    refine ⟨count, last, hafter, hend, hlast, hresult, ?_, used, ?_, ?_⟩
    · rw [show done.sink = _ from hdone]
      exact hwrites
    · rw [show done.sink = _ from hdone]
      exact hused
    · omega
  · intro count w hafter
    obtain ⟨hlimit, hwrites, taken, used, hoffset, hused, hle⟩ := hspent hafter
    have hbounds := Writing.inBounds_after (w := start) hsink.inBounds hafter
    have hrefusals := w.refusals_le_one
    refine ⟨fun limit hmem => ?_, fun stop hstop => ?_, hwrites, taken, used, hoffset, hused,
      by omega⟩
    · rw [← hlimit] at hmem
      exact hbounds.le_limit limit hmem
    · exact hbounds.le_stop stop (List.mem_of_mem_head? hstop)

/-- Two bytes, four interruptions and the refusal at the limit: a second line that takes as many
writes as a line can take. -/
theorem handOver_rounds_second_line :
    let fresh : Sink := { Sink.unbounded with
      limit := some 4, refusal := .fault .brokenPipe, chunk := some 1,
      interrupts := [0, 2, 2, 4, 4, 9] }
    let sink := (handOver Facility.scripted [[0x61]] fresh [.ok 0]).sink
    let args : List Bytes := [[0xc3, 0xa9, 0x62]]
    let done := handOver Facility.scripted args sink []
    sink.Reachable ∧
    (∃ count last, Writing.after count (.line sink (echoBytes args)) = some last ∧
      last.round = none ∧ count = 7) ∧
    (Event.written done.events).length = 2 ∧
    sink.interrupts = [2, 2, 4, 4] ++ done.sink.interrupts := by
  intro fresh sink args done
  have hfresh : fresh.Reachable :=
    .fresh (by simp [fresh, Sink.Advancing]) (by decide) rfl rfl rfl
  have hsink : sink.Reachable := .handOver Facility.scripted [[0x61]] [.ok 0] hfresh
  obtain ⟨⟨count, last, hafter, hend, -, -, hwrites, -⟩, -⟩ :=
    handOver_rounds Facility.scripted args sink [] hsink
  have hcount : sink.writes + 7 = sink.writes + count :=
    .trans (by decide +kernel) hwrites
  exact ⟨hsink, ⟨count, last, hafter, hend, by omega⟩, by decide +kernel, by decide +kernel⟩

end Handoff

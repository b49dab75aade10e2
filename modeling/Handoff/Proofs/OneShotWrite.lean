import Handoff.Sink

/-!
# The write loop as a single write

`Sink.accept` takes as much of a text as the limit leaves room for, in one piece, and refuses the
rest. The loops `Sink.writeAll` and `Sink.writeLine` come to the same, however a sink cuts them
into chunks and interrupts them (`Sink.writeAll_unsliced`, `Sink.writeLine_unsliced`). The
comparison is up to `Sink.unsliced`, which forgets how the work is cut and how many writes it took.

The only demand on a sink is `Sink.Advancing`: its chunks are not empty. A sink with empty chunks
takes nothing although it is not full, and fails with `WriteFault.nothingTaken` and not with its
own refusal.
-/

namespace Handoff

/-- The answer to a single write that tells of a fault. -/
def WriteFault.reply : WriteFault → Reply
  | .nothingTaken => .taken 0
  | .fault cause => .failed cause

theorem WriteFault.reply_inj {f g : WriteFault} : f.reply = g.reply ↔ f = g := by
  cases f <;> cases g <;> simp [reply]

namespace Sink

/-- No write is cut to nothing. -/
def Advancing (s : Sink) : Prop := ∀ size ∈ s.chunk, 1 ≤ size

/-- The sink without chunks and interruptions, and without the count of its writes. -/
def unsliced (s : Sink) : Sink := { s with chunk := none, interrupts := [], writes := 0 }

/-- The sink after `k` more bytes. -/
def advance (s : Sink) (k : Nat) : Sink := { s with offset := s.offset + k }

/-- How many of `n` bytes are taken before the sink is full. -/
def capacity (s : Sink) (n : Nat) : Nat := bounded n (s.limit.map (· - s.offset))

/-- A text is taken up to the limit, in one piece; what is left over is refused. -/
def accept (s : Sink) (bytes : Bytes) : Outcome where
  sent := bytes.take (s.capacity bytes.length)
  result := if s.capacity bytes.length = bytes.length then .ok () else .error s.refusal
  sink := s.advance (s.capacity bytes.length)

/-- An outcome without what tells how the work was cut. -/
def Outcome.unsliced (o : Outcome) : Outcome := { o with sink := o.sink.unsliced }

theorem Outcome.unsliced_eq_iff {o p : Outcome} : o.unsliced = p.unsliced ↔
    o.sent = p.sent ∧ o.result = p.result ∧ o.sink.unsliced = p.sink.unsliced := by
  simp only [Outcome.unsliced, Outcome.mk.injEq]

variable {s t : Sink} {m n k : Nat} {xs ys bytes : Bytes}

theorem Advancing.of_chunk (hs : s.Advancing) (h : t.chunk = s.chunk) : t.Advancing := by
  intro size hsize
  rw [h] at hsize
  exact hs size hsize

/-! ### Capacity -/

theorem bounded_le (n : Nat) (bound : Option Nat) : bounded n bound ≤ n := by
  cases bound with
  | none => exact Nat.le_refl n
  | some b => exact Nat.min_le_left n b

theorem capacity_of_unlimited (h : s.limit = none) (n : Nat) : s.capacity n = n := by
  simp [capacity, bounded, h]

theorem capacity_of_limit {limit : Nat} (h : s.limit = some limit) (n : Nat) :
    s.capacity n = min n (limit - s.offset) := by
  simp [capacity, bounded, h]

theorem capacity_le (s : Sink) (n : Nat) : s.capacity n ≤ n := bounded_le n _

theorem capacity_congr (hlimit : s.limit = t.limit) (hoffset : s.offset = t.offset) (n : Nat) :
    s.capacity n = t.capacity n := by
  rw [capacity, capacity, hlimit, hoffset]

/-- A text that is not empty fits if and only if it ends at the limit or before it. -/
theorem capacity_eq_self_iff (hn : 0 < n) :
    s.capacity n = n ↔ ∀ limit ∈ s.limit, s.offset + n ≤ limit := by
  cases hlimit : s.limit with
  | none => simp [capacity_of_unlimited hlimit]
  | some limit =>
    rw [capacity_of_limit hlimit]
    simp only [Option.mem_def, Option.some.injEq, forall_eq']
    omega

theorem capacity_of_isFull (h : s.isFull = true) (n : Nat) : s.capacity n = 0 := by
  cases hlimit : s.limit with
  | none => simp [isFull, hlimit] at h
  | some limit =>
    have hle : limit ≤ s.offset := by simpa [isFull, hlimit] using h
    rw [capacity_of_limit hlimit, Nat.sub_eq_zero_of_le hle, Nat.min_zero]

theorem capacity_add_of_lt (h : s.capacity m < m) (n : Nat) :
    s.capacity (m + n) = s.capacity m := by
  cases hlimit : s.limit with
  | none => rw [capacity_of_unlimited hlimit] at h; omega
  | some limit =>
    rw [capacity_of_limit hlimit] at h
    rw [capacity_of_limit hlimit, capacity_of_limit hlimit]
    omega

/-- A text that fits leaves the rest of the capacity to what follows. -/
theorem capacity_add_of_eq (h : s.capacity m = m) (n : Nat) :
    s.capacity (m + n) = m + (s.advance m).capacity n := by
  cases hlimit : s.limit with
  | none => rw [capacity_of_unlimited hlimit, capacity_of_unlimited (s := s.advance m) hlimit]
  | some limit =>
    rw [capacity_of_limit hlimit] at h
    rw [capacity_of_limit hlimit, capacity_of_limit (s := s.advance m) hlimit]
    simp only [advance]
    omega

/-! ### The single write -/

@[simp] theorem accept_nil (s : Sink) : s.accept [] = ⟨[], .ok (), s⟩ := by
  have hzero : s.capacity 0 = 0 := Nat.le_zero.mp (s.capacity_le 0)
  simp [accept, hzero, advance]

theorem sent_accept_congr (hlimit : s.limit = t.limit) (hoffset : s.offset = t.offset)
    (bytes : Bytes) : (s.accept bytes).sent = (t.accept bytes).sent := by
  rw [accept, accept, capacity_congr hlimit hoffset]

theorem accept_of_isFull (h : s.isFull = true) (hbytes : bytes ≠ []) :
    s.accept bytes = ⟨[], .error s.refusal, s⟩ := by
  have hlength : ¬ 0 = bytes.length := fun h0 => hbytes (List.length_eq_zero_iff.mp h0.symm)
  simp [accept, capacity_of_isFull h, hlength, advance]

theorem accept_append_of_lt (h : s.capacity xs.length < xs.length) (ys : Bytes) :
    s.accept (xs ++ ys) = s.accept xs := by
  have hcap : s.capacity (xs ++ ys).length = s.capacity xs.length := by
    rw [List.length_append, capacity_add_of_lt h]
  have hcut : ¬ s.capacity xs.length = (xs ++ ys).length := by
    rw [List.length_append]; omega
  rw [accept, accept, hcap, List.take_append_of_le_length (Nat.le_of_lt h), if_neg hcut,
    if_neg (Nat.ne_of_lt h)]

theorem accept_append_of_eq (h : s.capacity xs.length = xs.length) (ys : Bytes) :
    s.accept (xs ++ ys) = ((s.advance xs.length).accept ys).after xs := by
  have hcap : s.capacity (xs ++ ys).length =
      xs.length + (s.advance xs.length).capacity ys.length := by
    rw [List.length_append, capacity_add_of_eq h]
  have hiff : s.capacity (xs ++ ys).length = (xs ++ ys).length ↔
      (s.advance xs.length).capacity ys.length = ys.length := by
    rw [hcap, List.length_append]; omega
  simp only [accept, Outcome.after, Outcome.mk.injEq]
  refine ⟨?_, ite_congr (propext hiff) (fun _ => rfl) (fun _ => rfl), ?_⟩
  · rw [hcap, List.take_length_add_append]
  · rw [hcap, advance, advance, advance, Nat.add_assoc]

@[simp] theorem unsliced_accept (s : Sink) (bytes : Bytes) :
    (s.accept bytes).unsliced = s.unsliced.accept bytes := rfl

@[simp] theorem unsliced_after (xs : Bytes) (o : Outcome) :
    (o.after xs).unsliced = o.unsliced.after xs := rfl

@[simp] theorem unsliced_advance (s : Sink) (k : Nat) :
    (s.advance k).unsliced = s.unsliced.advance k := rfl

@[simp] theorem advance_zero (s : Sink) : s.advance 0 = s := rfl

/-! ### One write of the loop -/

/-- `t` is `s` after `k` more bytes, and cuts its work into the same chunks. -/
structure Moved (s : Sink) (k : Nat) (t : Sink) : Prop where
  unsliced : t.unsliced = s.unsliced.advance k
  chunk : t.chunk = s.chunk

theorem offer_of_isFull (h : s.isFull = true) (n : Nat) : s.offer n = (s.refusal.reply, s) := by
  rw [offer, if_pos h]
  cases s.refusal <;> rfl

theorem offer_of_not_isFull (h : s.isFull = false) (n : Nat) :
    s.offer n = (.taken (s.room n), s.advance (s.room n)) := by
  simp [offer, h, advance]

theorem respond_eq (s : Sink) (n : Nat) :
    s.respond n =
      if s.interrupts.head? = some s.offset then
        (.interrupted, { s with interrupts := s.interrupts.tail })
      else s.offer n := by
  unfold respond
  cases hstops : s.interrupts <;> simp

/-- A write is interrupted if an interruption is due, refused at the limit, and else takes what
there is room for. -/
theorem write_eq (s : Sink) (n : Nat) :
    s.write n =
      if s.interrupts.head? = some s.offset then
        (.interrupted, { s with writes := s.writes + 1, interrupts := s.interrupts.tail })
      else if s.isFull then (s.refusal.reply, { s with writes := s.writes + 1 })
      else (.taken (s.room n),
        { s with writes := s.writes + 1, offset := s.offset + s.room n }) := by
  let counted : Sink := { s with writes := s.writes + 1 }
  have hoffer : counted.offer n =
      if s.isFull then (s.refusal.reply, counted)
      else (.taken (s.room n), counted.advance (s.room n)) := by
    cases hfull : s.isFull with
    | true => exact offer_of_isFull (s := counted) hfull n
    | false => exact offer_of_not_isFull (s := counted) hfull n
  rw [write, respond_eq, hoffer]
  rfl

/-- All that a single write can come to: an interruption, a refusal at the limit, or some bytes. -/
theorem write_cases (s : Sink) (n : Nat) :
    (∃ t, s.write n = (.interrupted, t) ∧ Moved s 0 t) ∨
    (s.isFull = true ∧ ∃ t, s.write n = (s.refusal.reply, t) ∧ Moved s 0 t) ∨
    (s.isFull = false ∧ ∃ t, s.write n = (.taken (s.room n), t) ∧ Moved s (s.room n) t) := by
  have hwrite := write_eq s n
  by_cases hdue : s.interrupts.head? = some s.offset
  · exact .inl ⟨_, hwrite.trans (if_pos hdue), rfl, rfl⟩
  · rw [if_neg hdue] at hwrite
    cases hfull : s.isFull with
    | true => exact .inr (.inl ⟨rfl, _, hwrite.trans (if_pos hfull), rfl, rfl⟩)
    | false => exact .inr (.inr ⟨rfl, _, hwrite.trans (if_neg (by simp [hfull])), rfl, rfl⟩)

theorem chunk_of_write {reply : Reply} (h : s.write n = (reply, t)) : t.chunk = s.chunk := by
  rcases s.write_cases n with ⟨u, hu, hmoved⟩ | ⟨-, u, hu, hmoved⟩ | ⟨-, u, hu, hmoved⟩ <;>
    cases h.symm.trans hu <;> exact hmoved.chunk

theorem room_le (s : Sink) (n : Nat) : s.room n ≤ n :=
  Nat.le_trans (bounded_le _ _) (Nat.le_trans (bounded_le _ _) (bounded_le _ _))

/-- What one write takes fits under the limit. -/
theorem capacity_room (s : Sink) (n : Nat) : s.capacity (s.room n) = s.room n := by
  cases hlimit : s.limit with
  | none => exact capacity_of_unlimited hlimit _
  | some limit =>
    have hroom : s.room n ≤ limit - s.offset := by
      simp only [room, hlimit, Option.map_some, bounded]
      exact Nat.le_trans (bounded_le _ _) (Nat.min_le_right _ _)
    rw [capacity_of_limit hlimit, Nat.min_eq_left hroom]

theorem bounded_pos {bound : Option Nat} (hn : 0 < n) (h : ∀ b ∈ bound, 0 < b) :
    0 < bounded n bound := by
  cases bound with
  | none => exact hn
  | some b => exact Nat.lt_min.mpr ⟨hn, h b rfl⟩

theorem room_pos (hs : s.Advancing) (hfull : s.isFull = false) (hn : 0 < n) : 0 < s.room n := by
  refine bounded_pos (bounded_pos (bounded_pos hn hs) ?_) ?_
  · intro b hb
    obtain ⟨limit, hlimit, rfl⟩ := Option.map_eq_some_iff.mp hb
    have : s.offset < limit := by simpa [isFull, hlimit] using hfull
    omega
  · intro b hb
    obtain ⟨stop, hstop, rfl⟩ := Option.map_eq_some_iff.mp hb
    have : s.offset < stop := by simpa using (Option.filter_eq_some_iff.mp hstop).2
    omega

theorem moved_of_interrupted (h : s.write n = (.interrupted, t)) : Moved s 0 t := by
  rcases s.write_cases n with ⟨u, hu, hmoved⟩ | ⟨-, u, hu, hmoved⟩ | ⟨-, u, hu, -⟩
  · cases h.symm.trans hu; exact hmoved
  · cases hrefusal : s.refusal <;> simp [hu, hrefusal, WriteFault.reply] at h
  · simp [hu] at h

/-- A write is refused only at the limit, and with the refusal of the sink. -/
theorem refused_of_reply (fault : WriteFault) (hs : s.Advancing) (hn : 0 < n)
    (h : s.write n = (fault.reply, t)) : s.isFull = true ∧ s.refusal = fault ∧ Moved s 0 t := by
  rcases s.write_cases n with ⟨u, hu, -⟩ | ⟨hfull, u, hu, hmoved⟩ | ⟨hfull, u, hu, -⟩
  · cases fault <;> simp [hu, WriteFault.reply] at h
  · obtain ⟨hreply, rfl⟩ := Prod.mk.inj (hu.symm.trans h)
    exact ⟨hfull, WriteFault.reply_inj.mp hreply, hmoved⟩
  · have hpos := room_pos hs hfull hn
    cases fault with
    | nothingTaken => simp [hu, WriteFault.reply] at h; omega
    | fault => simp [hu, WriteFault.reply] at h

theorem moved_of_taken (h : s.write n = (.taken (k + 1), t)) :
    k + 1 = s.room n ∧ Moved s (k + 1) t := by
  rcases s.write_cases n with ⟨u, hu, -⟩ | ⟨-, u, hu, -⟩ | ⟨-, u, hu, hmoved⟩
  · simp [hu] at h
  · cases hrefusal : s.refusal <;> simp [hu, hrefusal, WriteFault.reply] at h
  · obtain ⟨hroom, rfl⟩ := Prod.mk.inj (hu.symm.trans h)
    have hroom : s.room n = k + 1 := Reply.taken.inj hroom
    exact ⟨hroom.symm, hroom ▸ hmoved⟩

/-! ### The loops -/

theorem accept_of_moved_zero (h : Moved s 0 t) (bytes : Bytes) :
    (t.accept bytes).unsliced = (s.accept bytes).unsliced := by
  rw [unsliced_accept, h.unsliced, advance_zero, unsliced_accept]

theorem accept_of_refused (hfull : s.isFull = true) (hmoved : Moved s 0 t) (hbytes : bytes ≠ []) :
    (⟨[], .error s.refusal, t⟩ : Outcome).unsliced = (s.accept bytes).unsliced := by
  rw [accept_of_isFull hfull hbytes, Outcome.unsliced, Outcome.unsliced, hmoved.unsliced,
    advance_zero]

/-- A piece that fits can be taken first, and the rest by the sink after it. -/
theorem accept_of_moved (h : Moved s k t) (hle : k ≤ bytes.length) (hfits : s.capacity k = k) :
    ((t.accept (bytes.drop k)).after (bytes.take k)).unsliced = (s.accept bytes).unsliced := by
  have hlength : (bytes.take k).length = k := List.length_take_of_le hle
  have hfirst : s.capacity (bytes.take k).length = (bytes.take k).length := by rw [hlength, hfits]
  have hsplit := accept_append_of_eq hfirst (bytes.drop k)
  rw [List.take_append_drop, hlength] at hsplit
  rw [hsplit, unsliced_after, unsliced_after, unsliced_accept, h.unsliced, unsliced_accept,
    unsliced_advance]

/-- The loop over single writes comes to one write of everything. -/
theorem writeAll_unsliced (hs : s.Advancing) (bytes : Bytes) :
    (s.writeAll bytes).unsliced = (s.accept bytes).unsliced := by
  fun_induction writeAll s bytes with
  | case1 s => rw [accept_nil]
  | case2 s bytes hbytes t hwrite ih =>
    have hmoved := moved_of_interrupted hwrite
    rw [ih (hs.of_chunk hmoved.chunk), accept_of_moved_zero hmoved]
  | case3 s bytes hbytes fault t hwrite =>
    have hpos := List.length_pos_iff.mpr hbytes
    obtain ⟨hfull, hrefusal, hmoved⟩ := refused_of_reply (.fault fault) hs hpos hwrite
    rw [← hrefusal, accept_of_refused hfull hmoved hbytes]
  | case4 s bytes hbytes t hwrite =>
    have hpos := List.length_pos_iff.mpr hbytes
    obtain ⟨hfull, hrefusal, hmoved⟩ := refused_of_reply .nothingTaken hs hpos hwrite
    rw [← hrefusal, accept_of_refused hfull hmoved hbytes]
  | case5 s bytes hbytes k t hwrite ih =>
    obtain ⟨hroom, hmoved⟩ := moved_of_taken hwrite
    have hfits : s.capacity (k + 1) = k + 1 := by rw [hroom, capacity_room]
    rw [unsliced_after, ih (hs.of_chunk hmoved.chunk), ← unsliced_after]
    exact accept_of_moved hmoved (hroom ▸ room_le s _) hfits

theorem chunk_writeAll (s : Sink) (bytes : Bytes) : (s.writeAll bytes).sink.chunk = s.chunk := by
  fun_induction writeAll s bytes with
  | case1 => rfl
  | case2 s bytes hbytes t hwrite ih => rw [ih, chunk_of_write hwrite]
  | case3 s bytes hbytes fault t hwrite => exact chunk_of_write hwrite
  | case4 s bytes hbytes t hwrite => exact chunk_of_write hwrite
  | case5 s bytes hbytes k t hwrite ih => exact ih.trans (chunk_of_write hwrite)

theorem writeLine_of_error {fault : WriteFault} {text : Bytes}
    (h : (s.writeAll text).result = .error fault) : s.writeLine text = s.writeAll text := by
  simp only [writeLine, h]
  rw [← h]

theorem writeLine_of_ok {text : Bytes} (h : (s.writeAll text).result = .ok ()) :
    s.writeLine text =
      ((s.writeAll text).sink.writeAll [Bytes.newline]).after (s.writeAll text).sent := by
  simp only [writeLine, h]

/-- A line is written by two loops, and comes to one write of the text and the end of the line. -/
theorem writeLine_unsliced (hs : s.Advancing) (text : Bytes) :
    (s.writeLine text).unsliced = (s.accept (text ++ [Bytes.newline])).unsliced := by
  have hfirst := writeAll_unsliced hs text
  obtain ⟨hsent, hresult, hsink⟩ := Outcome.unsliced_eq_iff.mp hfirst
  by_cases hfits : s.capacity text.length = text.length
  · simp only [accept, hfits, List.take_length] at hsent hsink
    rw [writeLine_of_ok (hresult.trans (if_pos hfits)), hsent, accept_append_of_eq hfits,
      unsliced_after, unsliced_after,
      writeAll_unsliced (hs.of_chunk (chunk_writeAll s text)), unsliced_accept, hsink,
      unsliced_accept]
  · have hlt : s.capacity text.length < text.length :=
      Nat.lt_of_le_of_ne (s.capacity_le _) hfits
    rw [writeLine_of_error (hresult.trans (if_neg hfits)), accept_append_of_lt hlt, hfirst]

theorem chunk_writeLine (s : Sink) (text : Bytes) : (s.writeLine text).sink.chunk = s.chunk := by
  cases hfirst : (s.writeAll text).result with
  | error fault => rw [writeLine_of_error hfirst, chunk_writeAll]
  | ok =>
    rw [writeLine_of_ok hfirst]
    exact (chunk_writeAll _ _).trans (chunk_writeAll s text)

end Sink

end Handoff

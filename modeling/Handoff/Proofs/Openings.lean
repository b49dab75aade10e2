import Handoff.Utf8
import Mathlib.Data.List.Forall2

/-!
# What an open sequence can become

The encoding of a character is `String.utf8EncodeChar`. The reader knows nothing of it and goes by
ranges of bytes, so an `Opening` is faithful (`Opening.Faithful`) if the two agree: the encodings
that begin with what has been seen are those whose other bytes fall in the ranges that are due, and
the code point is the number that the reader has been adding up. Every first byte opens a faithful
sequence (`Opening.ofLead?_cases`), and a byte in its range leaves it faithful
(`Opening.Faithful.extend`).

With that the steps of the reader are told in terms of encodings alone (`start_cases`,
`Opening.Faithful.feed_cases`). All arithmetic on code points is in this module.
-/

namespace Handoff.Utf8

variable {b x : UInt8} {c d : Char} {bytes tail rest rest' : Bytes} {n : Nat} {o : Opening}

/-! ### Encodings in numbers -/

/-- The bytes that encode a code point, as numbers. -/
def units (n : Nat) : List Nat :=
  if n ≤ 0x7f then [n]
  else if n ≤ 0x7ff then [0xc0 + n / 64, 0x80 + n % 64]
  else if n ≤ 0xffff then [0xe0 + n / 4096, 0x80 + n / 64 % 64, 0x80 + n % 64]
  else [0xf0 + n / 262144, 0x80 + n / 4096 % 64, 0x80 + n / 64 % 64, 0x80 + n % 64]

/-- The first unit tells how many there are. -/
theorem units_cons_cases {lead : Nat} {others : List Nat} (h : lead :: others = units n) :
    (n ≤ 0x7f ∧ lead = n ∧ others = []) ∨
    ((0x80 ≤ n ∧ n ≤ 0x7ff) ∧ lead = 0xc0 + n / 64 ∧ others = [0x80 + n % 64]) ∨
    ((0x800 ≤ n ∧ n ≤ 0xffff) ∧ lead = 0xe0 + n / 4096 ∧
      others = [0x80 + n / 64 % 64, 0x80 + n % 64]) ∨
    (0x10000 ≤ n ∧ lead = 0xf0 + n / 262144 ∧
      others = [0x80 + n / 4096 % 64, 0x80 + n / 64 % 64, 0x80 + n % 64]) := by
  unfold units at h
  split at h
  · exact .inl ⟨‹_›, List.cons.inj h⟩
  split at h
  · exact .inr (.inl ⟨by omega, List.cons.inj h⟩)
  split at h
  · exact .inr (.inr (.inl ⟨by omega, List.cons.inj h⟩))
  · exact .inr (.inr (.inr ⟨by omega, List.cons.inj h⟩))

theorem isValidChar_toNat (c : Char) : c.toNat.isValidChar := c.valid

theorem toNat_ofNat (h : n.isValidChar) : (Char.ofNat n).toNat = n := by
  rw [Char.ofNat, dif_pos h]
  exact UInt32.toNat_ofNatLT ..

theorem map_toNat_utf8EncodeChar (c : Char) :
    (String.utf8EncodeChar c).map UInt8.toNat = units c.toNat := by
  have hvalid := isValidChar_toNat c
  simp only [String.utf8EncodeChar, units, Char.toNat_val]
  split
  · simp only [List.map_cons, List.map_nil, UInt8.toNat_ofNat', List.cons.injEq, and_true]
    omega
  split
  · simp only [List.map_cons, List.map_nil, UInt8.toNat_ofNat', List.cons.injEq, and_true]
    omega
  split
  · simp only [List.map_cons, List.map_nil, UInt8.toNat_ofNat', List.cons.injEq, and_true]
    omega
  · simp only [List.map_cons, List.map_nil, UInt8.toNat_ofNat', List.cons.injEq, and_true]
    omega

theorem utf8EncodeChar_eq_iff :
    String.utf8EncodeChar c = bytes ↔ bytes.map UInt8.toNat = units c.toNat := by
  rw [← map_toNat_utf8EncodeChar, eq_comm]
  exact (List.map_injective_iff.mpr fun _ _ => UInt8.toNat_inj.mp).eq_iff.symm

theorem utf8EncodeChar_ascii (hb : b < 0x80) :
    String.utf8EncodeChar (Char.ofNat b.toNat) = [b] := by
  have hb : b.toNat < 0x80 := UInt8.lt_iff_toNat_lt.mp hb
  rw [utf8EncodeChar_eq_iff, toNat_ofNat (.inl (by omega)), units, if_pos (by omega)]
  rfl

/-- No encoding is a beginning of another one. -/
theorem utf8EncodeChar_append_inj
    (h : String.utf8EncodeChar c ++ rest = String.utf8EncodeChar d ++ rest') :
    c = d ∧ rest = rest' := by
  have hchar := congrArg (fun bytes : Bytes => bytes.toByteArray.utf8DecodeChar? 0) h
  simp only [List.toByteArray_append, ByteArray.utf8DecodeChar?_utf8EncodeChar_append,
    Option.some.injEq] at hchar
  subst hchar
  exact ⟨rfl, List.append_cancel_left h⟩

theorem lead_of_utf8EncodeChar (h : String.utf8EncodeChar c = b :: tail) :
    b.toNat < 0x80 ∨ 0xc2 ≤ b.toNat ∧ b.toNat ≤ 0xf4 := by
  have hvalid := isValidChar_toNat c
  rw [utf8EncodeChar_eq_iff, List.map_cons] at h
  obtain ⟨hsize, hlead, -⟩ | ⟨hsize, hlead, -⟩ | ⟨hsize, hlead, -⟩ | ⟨hsize, hlead, -⟩ :=
    units_cons_cases h
  all_goals omega

theorem continues_of_utf8EncodeChar (h : String.utf8EncodeChar c = b :: tail) (hx : x ∈ tail) :
    0x80 ≤ x.toNat ∧ x.toNat ≤ 0xbf := by
  have hmem : x.toNat ∈ tail.map UInt8.toNat := List.mem_map_of_mem hx
  rw [utf8EncodeChar_eq_iff, List.map_cons] at h
  obtain ⟨-, -, hothers⟩ | ⟨-, -, hothers⟩ | ⟨-, -, hothers⟩ | ⟨-, -, hothers⟩ :=
    units_cons_cases h
  all_goals
    rw [hothers] at hmem
    simp only [List.mem_cons, List.not_mem_nil, or_false] at hmem
  · omega
  · omega
  · omega

/-! ### Openings that go by the encodings -/

theorem ByteRange.contains_mk {first last : UInt8} :
    contains ⟨first, last⟩ b = true ↔ first.toNat ≤ b.toNat ∧ b.toNat ≤ last.toNat := by
  simp [contains, UInt8.le_iff_toNat_le]

theorem ByteRange.contains_continuation :
    continuation.contains b = true ↔ 0x80 ≤ b.toNat ∧ b.toNat ≤ 0xbf := contains_mk

/-- Whether bytes fall one by one in some ranges. -/
def Within (ranges : List ByteRange) (bytes : Bytes) : Prop :=
  List.Forall₂ (fun range b => range.contains b = true) ranges bytes

@[simp] theorem within_nil_iff : Within [] bytes ↔ bytes = [] := List.forall₂_nil_left_iff

theorem within_cons_iff {range : ByteRange} {ranges : List ByteRange} :
    Within (range :: ranges) bytes ↔
      ∃ b tail, bytes = b :: tail ∧ range.contains b = true ∧ Within ranges tail := by
  rw [Within, List.forall₂_cons_left_iff]
  constructor
  · rintro ⟨b, tail, hb, htail, h⟩
    exact ⟨b, tail, h, hb, htail⟩
  · rintro ⟨b, tail, h, hb, htail⟩
    exact ⟨b, tail, hb, htail, h⟩

@[simp] theorem within_cons_cons_iff {range : ByteRange} {ranges : List ByteRange} :
    Within (range :: ranges) (b :: tail) ↔ range.contains b = true ∧ Within ranges tail :=
  List.forall₂_cons

namespace Opening

/-- The code point that the bits of an opening and the bytes after it add up to. -/
def value (o : Opening) (tail : Bytes) : Nat :=
  tail.foldl (fun bits b => bits * 64 + b.toNat % 64) o.bits

/-- Whether what is due of an opening is what all encodings go on with that begin like it. -/
structure Faithful (o : Opening) : Prop where
  seen_ne_nil : o.seen ≠ []
  completable : ∃ tail, Within (o.due :: o.later) tail
  completes : ∀ {tail c}, String.utf8EncodeChar c = o.seen ++ tail ↔
    Within (o.due :: o.later) tail ∧ c = Char.ofNat (o.value tail)

/-- For a first byte it is enough to compare the numbers. -/
theorem faithful_of_units (hseen : o.seen = [b])
    (hcompletable : ∃ tail, Within (o.due :: o.later) tail)
    (hunits : ∀ n tail, n.isValidChar → b.toNat :: tail.map UInt8.toNat = units n →
      Within (o.due :: o.later) tail ∧ o.value tail = n)
    (hwithin : ∀ tail, Within (o.due :: o.later) tail → (o.value tail).isValidChar ∧
      b.toNat :: tail.map UInt8.toNat = units (o.value tail)) : o.Faithful where
  seen_ne_nil := by simp [hseen]
  completable := hcompletable
  completes {tail c} := by
    rw [utf8EncodeChar_eq_iff, hseen]
    constructor
    · intro h
      obtain ⟨htail, hvalue⟩ := hunits c.toNat tail (isValidChar_toNat c) h
      exact ⟨htail, by rw [hvalue, Char.ofNat_toNat]⟩
    · rintro ⟨htail, rfl⟩
      obtain ⟨hvalid, hvalue⟩ := hwithin tail htail
      rw [toNat_ofNat hvalid, ← hvalue]
      rfl

/-- The first of two bytes. Smaller ones would be overlong. -/
theorem faithful_two {bits : Nat} (hb : b.toNat = 0xc0 + bits) (hbits : 2 ≤ bits ∧ bits ≤ 0x1f) :
    Faithful ⟨[b], bits, .continuation, []⟩ := by
  refine faithful_of_units rfl ⟨[0x80], ?_⟩ (fun n tail hn h => ?_) (fun tail h => ?_)
  · simp [ByteRange.contains_continuation]
  · obtain ⟨hsize, hlead, -⟩ | ⟨hsize, hlead, hothers⟩ | ⟨hsize, hlead, -⟩ | ⟨hsize, hlead, -⟩ :=
      units_cons_cases h
    · omega
    · obtain ⟨x, _, rfl, hx, h⟩ := List.map_eq_cons_iff.mp hothers
      obtain rfl := List.map_eq_nil_iff.mp h
      simp only [value, within_cons_cons_iff, within_nil_iff, ByteRange.contains_continuation,
        List.foldl_cons, List.foldl_nil, and_true]
      omega
    · omega
    · omega
  · simp only [within_cons_iff, within_nil_iff, ByteRange.contains_continuation] at h
    obtain ⟨x, _, rfl, hx, rfl⟩ := h
    simp only [value, List.foldl_cons, List.foldl_nil, List.map_cons, List.map_nil]
    generalize hn : bits * 64 + x.toNat % 64 = n
    refine ⟨by omega, ?_⟩
    rw [units, if_neg (by omega), if_pos (by omega)]
    simp only [List.cons.injEq, and_true]
    omega

/-- The first of three bytes. The second is bounded below where it would be overlong, and above
where it would be a surrogate. -/
theorem faithful_three {bits : Nat} {lo hi : UInt8} (hb : b.toNat = 0xe0 + bits)
    (hbits : bits ≤ 0xf) (hlo : bits = 0 ∧ lo.toNat = 0xa0 ∨ bits ≠ 0 ∧ lo.toNat = 0x80)
    (hhi : bits = 0xd ∧ hi.toNat = 0x9f ∨ bits ≠ 0xd ∧ hi.toNat = 0xbf) :
    Faithful ⟨[b], bits, ⟨lo, hi⟩, [.continuation]⟩ := by
  refine faithful_of_units rfl ⟨[lo, 0x80], ?_⟩ (fun n tail hn h => ?_) (fun tail h => ?_)
  · simp only [within_cons_cons_iff, within_nil_iff, ByteRange.contains_continuation,
      ByteRange.contains_mk, UInt8.reduceToNat, and_true]
    omega
  · obtain ⟨hsize, hlead, -⟩ | ⟨hsize, hlead, -⟩ | ⟨hsize, hlead, hothers⟩ | ⟨hsize, hlead, -⟩ :=
      units_cons_cases h
    · omega
    · omega
    · obtain ⟨x, _, rfl, hx, h⟩ := List.map_eq_cons_iff.mp hothers
      obtain ⟨y, _, rfl, hy, h⟩ := List.map_eq_cons_iff.mp h
      obtain rfl := List.map_eq_nil_iff.mp h
      simp only [value, within_cons_cons_iff, within_nil_iff, ByteRange.contains_continuation,
        ByteRange.contains_mk, List.foldl_cons, List.foldl_nil, and_true]
      omega
    · omega
  · simp only [within_cons_iff, within_nil_iff, ByteRange.contains_continuation,
      ByteRange.contains_mk] at h
    obtain ⟨x, _, rfl, hx, y, _, rfl, hy, rfl⟩ := h
    simp only [value, List.foldl_cons, List.foldl_nil, List.map_cons, List.map_nil]
    generalize hn : (bits * 64 + x.toNat % 64) * 64 + y.toNat % 64 = n
    refine ⟨by omega, ?_⟩
    rw [units, if_neg (by omega), if_neg (by omega), if_pos (by omega)]
    simp only [List.cons.injEq, and_true]
    omega

/-- The first of four bytes. The second is bounded below where it would be overlong, and above
where it would be beyond the last code point. -/
theorem faithful_four {bits : Nat} {lo hi : UInt8} (hb : b.toNat = 0xf0 + bits) (hbits : bits ≤ 4)
    (hlo : bits = 0 ∧ lo.toNat = 0x90 ∨ bits ≠ 0 ∧ lo.toNat = 0x80)
    (hhi : bits = 4 ∧ hi.toNat = 0x8f ∨ bits ≠ 4 ∧ hi.toNat = 0xbf) :
    Faithful ⟨[b], bits, ⟨lo, hi⟩, [.continuation, .continuation]⟩ := by
  refine faithful_of_units rfl ⟨[lo, 0x80, 0x80], ?_⟩ (fun n tail hn h => ?_) (fun tail h => ?_)
  · simp only [within_cons_cons_iff, within_nil_iff, ByteRange.contains_continuation,
      ByteRange.contains_mk, UInt8.reduceToNat, and_true]
    omega
  · obtain ⟨hsize, hlead, -⟩ | ⟨hsize, hlead, -⟩ | ⟨hsize, hlead, -⟩ | ⟨hsize, hlead, hothers⟩ :=
      units_cons_cases h
    · omega
    · omega
    · omega
    · obtain ⟨x, _, rfl, hx, h⟩ := List.map_eq_cons_iff.mp hothers
      obtain ⟨y, _, rfl, hy, h⟩ := List.map_eq_cons_iff.mp h
      obtain ⟨z, _, rfl, hz, h⟩ := List.map_eq_cons_iff.mp h
      obtain rfl := List.map_eq_nil_iff.mp h
      simp only [value, within_cons_cons_iff, within_nil_iff, ByteRange.contains_continuation,
        ByteRange.contains_mk, List.foldl_cons, List.foldl_nil, and_true]
      omega
  · simp only [within_cons_iff, within_nil_iff, ByteRange.contains_continuation,
      ByteRange.contains_mk] at h
    obtain ⟨x, _, rfl, hx, y, _, rfl, hy, z, _, rfl, hz, rfl⟩ := h
    simp only [value, List.foldl_cons, List.foldl_nil, List.map_cons, List.map_nil]
    generalize hn :
      ((bits * 64 + x.toNat % 64) * 64 + y.toNat % 64) * 64 + z.toNat % 64 = n
    refine ⟨by omega, ?_⟩
    rw [units, if_neg (by omega), if_neg (by omega), if_neg (by omega)]
    simp only [List.cons.injEq, and_true]
    omega

/-- A byte opens a faithful sequence, or it is not the first of several. -/
theorem ofLead?_cases (b : UInt8) :
    (∃ o, ofLead? b = some o ∧ o.seen = [b] ∧ o.Faithful) ∨
      (b.toNat < 0xc2 ∨ 0xf4 < b.toNat) ∧ ofLead? b = none := by
  fun_cases ofLead? b with
  | case1 hb =>
    simp only [UInt8.le_iff_toNat_le, UInt8.reduceToNat, Bool.and_eq_true,
      decide_eq_true_eq] at hb
    exact .inl ⟨_, rfl, rfl, faithful_two (by omega) (by omega)⟩
  | case2 _ hb =>
    exact .inl ⟨_, rfl, rfl, faithful_three (hb ▸ rfl) (by decide) (by decide) (by decide)⟩
  | case3 _ _ hb =>
    exact .inl ⟨_, rfl, rfl, faithful_three (hb ▸ rfl) (by decide) (by decide) (by decide)⟩
  | case4 _ hfirst hsurrogate hb =>
    simp only [← UInt8.toNat_inj, UInt8.le_iff_toNat_le, UInt8.reduceToNat, Bool.and_eq_true,
      decide_eq_true_eq] at hfirst hsurrogate hb
    exact .inl ⟨_, rfl, rfl, faithful_three (by omega) (by omega) (.inr ⟨by omega, rfl⟩)
      (.inr ⟨by omega, rfl⟩)⟩
  | case5 _ _ _ _ hb =>
    exact .inl ⟨_, rfl, rfl, faithful_four (hb ▸ rfl) (by decide) (by decide) (by decide)⟩
  | case6 _ _ _ _ hfirst hb =>
    simp only [← UInt8.toNat_inj, UInt8.le_iff_toNat_le, UInt8.reduceToNat, Bool.and_eq_true,
      decide_eq_true_eq] at hfirst hb
    exact .inl ⟨_, rfl, rfl, faithful_four (by omega) (by omega) (.inr ⟨by omega, rfl⟩)
      (.inr ⟨by omega, rfl⟩)⟩
  | case7 _ _ _ _ _ _ hb =>
    exact .inl ⟨_, rfl, rfl, faithful_four (hb ▸ rfl) (by decide) (by decide) (by decide)⟩
  | case8 htwo hfirst3 hsurrogate hthree hfirst4 hfour hlast =>
    simp only [← UInt8.toNat_inj, UInt8.le_iff_toNat_le, UInt8.reduceToNat, Bool.and_eq_true,
      decide_eq_true_eq, not_and, Nat.not_le] at htwo hfirst3 hsurrogate hthree hfirst4 hfour hlast
    exact .inr ⟨by omega, rfl⟩

namespace Faithful

/-- A byte in its range leaves an opening faithful. -/
theorem extend {due : ByteRange} {later : List ByteRange} (ho : o.Faithful)
    (hdue : o.due.contains b = true) (hlater : o.later = due :: later) :
    Faithful ⟨o.seen ++ [b], o.bits * 64 + b.toNat % 64, due, later⟩ where
  seen_ne_nil := by simp
  completable := by
    obtain ⟨_, htail⟩ := ho.completable
    obtain ⟨_, tail, -, -, htail⟩ := within_cons_iff.mp htail
    exact ⟨tail, hlater ▸ htail⟩
  completes {tail c} := by
    rw [List.append_assoc, List.singleton_append, ho.completes, within_cons_cons_iff, hlater]
    exact and_congr_left' (and_iff_right hdue)

/-- What has been seen is a beginning of an encoding, and not all of it. -/
theorem exists_encoding (ho : o.Faithful) :
    ∃ c tail, tail ≠ [] ∧ String.utf8EncodeChar c = o.seen ++ tail := by
  obtain ⟨tail, htail⟩ := ho.completable
  refine ⟨_, tail, ?_, ho.completes.mpr ⟨htail, rfl⟩⟩
  obtain ⟨b, rest, rfl, -⟩ := within_cons_iff.mp htail
  exact List.cons_ne_nil _ _

end Faithful

end Opening

/-! ### What a byte does -/

/-- A byte where no sequence is open is a character, opens a sequence or begins no encoding. -/
theorem start_cases (b : UInt8) :
    (∃ c, String.utf8EncodeChar c = [b] ∧ start b = ([.char c], none)) ∨
    (∃ o : Opening, o.seen = [b] ∧ o.Faithful ∧ start b = ([], some o)) ∨
    (∀ c tail, String.utf8EncodeChar c ≠ b :: tail) ∧ start b = ([.malformed [b]], none) := by
  by_cases hb : b < 0x80
  · exact .inl ⟨_, utf8EncodeChar_ascii hb, by rw [start, if_pos hb]⟩
  rw [start, if_neg hb]
  obtain ⟨o, hlead, hseen, ho⟩ | ⟨hrange, hlead⟩ := Opening.ofLead?_cases b
  · rw [hlead]
    exact .inr (.inl ⟨o, hseen, ho, rfl⟩)
  · rw [hlead]
    refine .inr (.inr ⟨fun c tail h => ?_, rfl⟩)
    have hlow : ¬ b.toNat < 0x80 := fun h => hb (UInt8.lt_iff_toNat_lt.mpr h)
    have := lead_of_utf8EncodeChar h
    omega

/-- A byte in an open sequence completes a character, goes on with the sequence, or fits no encoding
that begins with what has been seen; then it is read afresh. -/
theorem Opening.Faithful.feed_cases (ho : o.Faithful) (b : UInt8) :
    (∃ c, String.utf8EncodeChar c = o.seen ++ [b] ∧ o.feed b = ([.char c], none)) ∨
    (∃ next : Opening, next.seen = o.seen ++ [b] ∧ next.Faithful ∧ o.feed b = ([], some next)) ∨
    (∀ c tail, String.utf8EncodeChar c ≠ o.seen ++ b :: tail) ∧
      o.feed b = (.malformed o.seen :: (start b).1, (start b).2) := by
  by_cases hdue : o.due.contains b = true
  · rw [Opening.feed, if_pos hdue]
    cases hlater : o.later with
    | nil => exact .inl ⟨_, ho.completes.mpr ⟨by simp [hlater, hdue], rfl⟩, rfl⟩
    | cons due later => exact .inr (.inl ⟨_, rfl, ho.extend hdue hlater, rfl⟩)
  · rw [Opening.feed, if_neg hdue]
    refine .inr (.inr ⟨fun c tail h => hdue ?_, rfl⟩)
    obtain ⟨hwithin, -⟩ := ho.completes.mp h
    exact (within_cons_cons_iff.mp hwithin).1

end Handoff.Utf8

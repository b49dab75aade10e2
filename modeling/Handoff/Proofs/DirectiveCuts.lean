import Handoff.Log.Directive

/-!
# Where a piece is cut

A piece is scanned without the blanks at its ends and cut as it stands. `Directive.offsets` keeps
the offsets of those cuts, and the reading of a piece is broken off if and only if one of them is no
boundary of the piece (`Directive.ofPiece_eq_aborted_iff`). Every one is a boundary of what the scan
has seen (`Directive.isBoundary_trim`). So only a piece with blanks in front, and with characters of
more than one byte, can be cut amiss (`Directive.ofPiece_ne_aborted`).

A field is looked at as soon as it is cut, so one that cannot be read keeps what follows it from
being cut at all.
-/

namespace Handoff

namespace Text

variable {cs front back : List Char} {start stop n : Nat}

/-- Whether a character begins at an offset, or the text ends there. -/
def IsBoundary (cs : List Char) (n : Nat) : Prop :=
  ∃ front back, cs = front ++ back ∧ byteLength front = n

@[simp] theorem byteLength_append (front back : List Char) :
    byteLength (front ++ back) = byteLength front + byteLength back := by
  induction front with
  | nil => simp
  | cons c front ih => simp [ih, Nat.add_assoc]

theorem isBoundary_zero : IsBoundary cs 0 := ⟨[], cs, rfl, rfl⟩

theorem isBoundary_byteLength : IsBoundary (front ++ back) (byteLength front) :=
  ⟨front, back, rfl, rfl⟩

theorem IsBoundary.append (h : IsBoundary cs n) : IsBoundary (cs ++ back) n := by
  obtain ⟨first, rest, rfl, hfirst⟩ := h
  exact ⟨first, rest ++ back, List.append_assoc .., hfirst⟩

theorem IsBoundary.le (h : IsBoundary cs n) : n ≤ byteLength cs := by
  obtain ⟨first, rest, rfl, rfl⟩ := h
  rw [byteLength_append]
  omega

theorem isBoundary_append_iff : IsBoundary (front ++ back) (byteLength front + n) ↔
    IsBoundary back n := by
  constructor
  · rintro ⟨first, rest, hsplit, hfirst⟩
    obtain ⟨middle, rfl, rfl⟩ | ⟨middle, rfl, rfl⟩ := List.append_eq_append_iff.mp hsplit
    · rw [byteLength_append] at hfirst
      exact ⟨middle, rest, rfl, by omega⟩
    · rw [byteLength_append] at hfirst
      exact (by omega : n = 0) ▸ isBoundary_zero
  · rintro ⟨first, rest, rfl, rfl⟩
    exact ⟨front ++ first, rest, (List.append_assoc ..).symm, byteLength_append ..⟩

/-- In a text of single bytes there is a boundary everywhere. -/
theorem isBoundary_of_le (h : ∀ c ∈ cs, c.utf8Size = 1) (hle : n ≤ byteLength cs) :
    IsBoundary cs n := by
  induction cs generalizing n with
  | nil => exact (Nat.le_zero.mp hle) ▸ isBoundary_zero
  | cons c cs ih =>
    cases n with
    | zero => exact isBoundary_zero
    | succ n =>
      have hc : c.utf8Size = 1 := h c List.mem_cons_self
      rw [byteLength_cons, hc] at hle
      obtain ⟨first, rest, rfl, hfirst⟩ := ih (fun d hd => h d (List.mem_cons_of_mem c hd))
        (by omega : n ≤ byteLength cs)
      exact ⟨c :: first, rest, rfl, by rw [byteLength_cons, hc, hfirst, Nat.add_comm]⟩

/-- Where a text is read up to a mark of one byte, the offset behind the mark. -/
theorem byteLength_behind {c : Char} (h : c.utf8Size = 1) (front name : List Char) :
    byteLength (front ++ (name ++ [c])) = byteLength front + byteLength name + 1 := by
  simp [h, Nat.add_assoc]

theorem dropBytes?_eq_some_iff :
    dropBytes? n cs = some back ↔ ∃ front, cs = front ++ back ∧ byteLength front = n := by
  constructor
  · intro h
    fun_induction dropBytes? n cs with
    | case1 cs => exact ⟨[], Option.some.inj h, rfl⟩
    | case2 => cases h
    | case3 n c cs hle ih =>
      obtain ⟨front, rfl, hfront⟩ := ih h
      exact ⟨c :: front, rfl, by rw [byteLength_cons]; omega⟩
    | case4 => cases h
  · rintro ⟨front, rfl, rfl⟩
    exact dropBytes?_byteLength_append front back

theorem takeBytes?_eq_some_iff :
    takeBytes? n cs = some front ↔ ∃ back, cs = front ++ back ∧ byteLength front = n := by
  constructor
  · intro h
    fun_induction takeBytes? n cs generalizing front with
    | case1 cs =>
      cases h
      exact ⟨cs, rfl, rfl⟩
    | case2 => cases h
    | case3 n c cs hle ih =>
      obtain ⟨first, hfirst, rfl⟩ := Option.map_eq_some_iff.mp h
      obtain ⟨back, rfl, hlength⟩ := ih hfirst
      exact ⟨back, rfl, by rw [byteLength_cons]; omega⟩
    | case4 => cases h
  · rintro ⟨back, rfl, rfl⟩
    exact takeBytes?_byteLength_append front back

theorem dropBytes?_eq_none_iff : dropBytes? n cs = none ↔ ¬ IsBoundary cs n := by
  simp only [Option.eq_none_iff_forall_ne_some, ne_eq, dropBytes?_eq_some_iff, IsBoundary,
    not_exists]
  exact forall_comm

theorem takeBytes?_eq_none_iff : takeBytes? n cs = none ↔ ¬ IsBoundary cs n := by
  simp only [Option.eq_none_iff_forall_ne_some, ne_eq, takeBytes?_eq_some_iff, IsBoundary,
    not_exists]

/-- A slice is there if and only if it begins and ends at boundaries. -/
theorem slice?_eq_none_iff (h : start ≤ stop) :
    slice? cs start stop = none ↔ ¬ IsBoundary cs start ∨ ¬ IsBoundary cs stop := by
  cases hdrop : dropBytes? start cs with
  | none =>
    rw [slice?, hdrop]
    exact iff_of_true rfl (.inl (dropBytes?_eq_none_iff.mp hdrop))
  | some rest =>
    obtain ⟨front, rfl, rfl⟩ := dropBytes?_eq_some_iff.mp hdrop
    have hstop : stop = byteLength front + (stop - byteLength front) := by omega
    rw [slice?, hdrop, Option.bind_some, takeBytes?_eq_none_iff, hstop, isBoundary_append_iff,
      ← hstop]
    exact (or_iff_right (not_not_intro isBoundary_byteLength)).symm

/-! ### Texts without the blanks at their ends -/

theorem trimEnd_isPrefix (cs : List Char) : trimEnd cs <+: cs := by
  induction cs with
  | nil => exact List.prefix_rfl
  | cons c cs ih =>
    rw [trimEnd]
    split
    · split
      · exact List.nil_prefix
      · exact List.cons_prefix_cons.mpr ⟨rfl, List.nil_prefix⟩
    · exact List.cons_prefix_cons.mpr ⟨rfl, ih⟩

theorem byteLength_trim_le (cs : List Char) : byteLength (trim cs) ≤ byteLength cs := by
  obtain ⟨rest, hrest⟩ := trimEnd_isPrefix (trimStart cs)
  have hstart : cs.takeWhile isBlank ++ (trim cs ++ rest) = cs := by
    rw [trim, hrest]
    exact List.takeWhile_append_dropWhile
  have hlength := congrArg byteLength hstart
  rw [byteLength_append, byteLength_append] at hlength
  omega

theorem trimStart_eq_self (h : cs.head?.any isBlank = false) : trimStart cs = cs := by
  cases cs with
  | nil => rfl
  | cons c cs =>
    have hc : isBlank c = false := h
    rw [trimStart, List.dropWhile_cons_of_neg (by simp [hc])]

end Text

namespace Log.Directive

open Text (IsBoundary)

variable {α : Type} {readable : List Char → Bool} {piece body front rest after : List Char}
  {target span : Option (List Char)} {start stop n : Nat} {ns : List Nat}

/-- The offset of the level behind a closing bracket, if there is one. -/
def levelOffsets (start : Nat) (after : List Char) : List Nat :=
  if after.head? = some '=' then [start + 1] else []

/-- Whether a field can be read between two offsets of a piece. -/
def hasField (readable : List Char → Bool) (piece : List Char) (start stop : Nat) : Bool :=
  ((Text.slice? piece start stop).bind (Field.ofText? readable)).isSome

/-- The offsets at which a field is cut, and the level behind it. -/
def fieldOffsets (readable : List Char → Bool) (piece : List Char) (start : Nat)
    (rest : List Char) : List Nat :=
  let stop := start + Text.byteLength (rest.takeWhile (· ≠ '\x7d'))
  match rest.dropWhile (· ≠ '\x7d') with
  | [] => []
  | _ :: after => start :: stop ::
      if hasField readable piece start stop ∧ after.head? = some ']'
      then levelOffsets (stop + 2) after.tail else []

/-- The offsets at which a span is cut, and what stands behind it. -/
def spanOffsets (readable : List Char → Bool) (piece : List Char) (start : Nat)
    (rest : List Char) : List Nat :=
  let stop := start + Text.byteLength (rest.takeWhile (!endsSpan ·))
  match rest.dropWhile (!endsSpan ·) with
  | [] => []
  | mark :: after => start :: stop ::
      if mark = ']' then levelOffsets (stop + 1) after
      else fieldOffsets readable piece (stop + 1) after

/-- The offsets at which a piece is cut, going by the marks that the scan finds. -/
def offsets (readable : List Char → Bool) (piece : List Char) : List Nat :=
  let body := Text.trim piece
  let stop := Text.byteLength (body.takeWhile (!isMark ·))
  if body.head?.any isOpening then
    match body.dropWhile (!isMark ·) with
    | [] => []
    | mark :: rest =>
      if mark = '=' then [0, stop, stop + 1]
      else if stop = 0 then spanOffsets readable piece 1 rest
      else 0 :: stop :: spanOffsets readable piece (stop + 1) rest
  else []

/-! ### A cut that is no boundary -/

/-- A reading that is broken off if and only if one of some offsets is no boundary. -/
def CutsAt (piece : List Char) (ns : List Nat) (read : Except FilterFault α) : Prop :=
  read = .error .aborted ↔ ∃ n ∈ ns, ¬ IsBoundary piece n

theorem cutsAt_pure {value : α} : CutsAt piece [] (pure value) := by
  simp [CutsAt, pure, Except.pure]

theorem cutsAt_invalid : CutsAt piece [] (throw .invalid : Except FilterFault α) := by
  simp [CutsAt, throw, throwThe, MonadExceptOf.throw]

theorem cutsAt_levelAt {f : Level → α} :
    CutsAt piece [start] (do return f (← levelAt piece start)) := by
  simp only [CutsAt, List.mem_singleton, exists_eq_left, ← Text.dropBytes?_eq_none_iff, levelAt]
  split
  · next hdrop => simp [hdrop, bind, Except.bind]
  · next hdrop => simp [hdrop, bind, Except.bind, pure, Except.pure]
  · next part hpart hdrop => 
    cases Level.ofText? part <;> simp [hdrop, bind, Except.bind, pure, Except.pure]

theorem cutsAt_levelBehind {f : Level → α} :
    CutsAt piece (levelOffsets start after) (do return f (← levelBehind piece start after)) := by
  rw [levelOffsets]
  cases after with
  | nil => exact cutsAt_pure
  | cons c after =>
    by_cases hc : c = '='
    · simpa [levelBehind, hc] using cutsAt_levelAt
    · have hlevel : levelBehind piece start (c :: after) = .error .invalid := if_neg hc
      rw [hlevel, if_neg (by simpa using hc)]
      exact cutsAt_invalid

theorem cutsAt_cut {next : List Char → Except FilterFault α} (hle : start ≤ stop)
    (hnext : ∀ part, Text.slice? piece start stop = some part → CutsAt piece ns (next part)) :
    CutsAt piece (start :: stop :: ns) (cut piece start stop >>= next) := by
  have hcuts : (∃ n ∈ start :: stop :: ns, ¬ IsBoundary piece n) ↔
      Text.slice? piece start stop = none ∨ ∃ n ∈ ns, ¬ IsBoundary piece n := by
    simp only [List.mem_cons, exists_eq_or_imp, Text.slice?_eq_none_iff hle, or_assoc]
  rw [CutsAt, hcuts, cut]
  cases hslice : Text.slice? piece start stop with
  | none => simp [bind, Except.bind]
  | some part => simpa [bind, Except.bind, CutsAt] using hnext part hslice

theorem cutsAt_ofField : CutsAt piece (fieldOffsets readable piece start rest)
    (ofField readable piece target span start rest) := by
  rw [fieldOffsets, ofField]
  cases rest.dropWhile (· ≠ '\x7d') with
  | nil => exact cutsAt_invalid
  | cons brace after =>
    refine cutsAt_cut (Nat.le_add_right ..) fun part hpart => ?_
    rw [hasField, hpart, Option.bind_some]
    cases Field.ofText? readable part with
    | none => simpa using cutsAt_invalid
    | some field =>
      by_cases hbracket : after.head? = some ']'
      · simpa [hbracket] using cutsAt_levelBehind
      · simpa [hbracket] using cutsAt_invalid

theorem cutsAt_ofSpan : CutsAt piece (spanOffsets readable piece start rest)
    (ofSpan readable piece target start rest) := by
  rw [spanOffsets, ofSpan]
  cases rest.dropWhile (!endsSpan ·) with
  | nil => exact cutsAt_invalid
  | cons mark after =>
    refine cutsAt_cut (Nat.le_add_right ..) fun name _ => ?_
    by_cases hmark : mark = ']'
    · simpa [hmark] using cutsAt_levelBehind
    · simpa [hmark] using cutsAt_ofField

theorem cutsAt_ofPiece : CutsAt piece (offsets readable piece) (ofPiece readable piece) := by
  rw [offsets, ofPiece]
  cases (Text.trim piece).head?.any isOpening with
  | false => exact cutsAt_invalid
  | true =>
    cases (Text.trim piece).dropWhile (!isMark ·) with
    | nil => exact cutsAt_pure
    | cons mark rest =>
      by_cases hmark : mark = '='
      · simpa [hmark] using cutsAt_cut (Nat.zero_le _) fun part _ => cutsAt_levelAt
      · by_cases hstop : Text.byteLength ((Text.trim piece).takeWhile (!isMark ·)) = 0
        · simpa [hmark, hstop] using cutsAt_ofSpan
        · simpa [hmark, hstop] using cutsAt_cut (Nat.zero_le _) fun part _ => cutsAt_ofSpan

/-- The reading of a piece is broken off if and only if it is cut at an offset that is no
boundary. -/
theorem ofPiece_eq_aborted_iff : ofPiece readable piece = .error .aborted ↔
    ∃ n ∈ offsets readable piece, ¬ IsBoundary piece n := cutsAt_ofPiece

/-! ### What the scan has seen -/

private theorem split_of_dropWhile {p : Char → Bool} {cs : List Char} {c : Char}
    (h : cs.dropWhile p = c :: rest) : cs = cs.takeWhile p ++ c :: rest ∧ p c = false := by
  have hnot := List.head?_dropWhile_not p cs
  rw [h] at hnot
  exact ⟨by rw [← h, List.takeWhile_append_dropWhile], hnot⟩

theorem isBoundary_of_mem_levelOffsets (h : n ∈ levelOffsets (Text.byteLength front) after) :
    IsBoundary (front ++ after) n := by
  rw [levelOffsets] at h
  split at h
  next hhead =>
    obtain ⟨rest, rfl⟩ := List.head?_eq_some_iff.mp hhead
    have hbehind : n = Text.byteLength (front ++ ([] ++ ['='])) := by
      rw [Text.byteLength_behind rfl]
      exact List.mem_singleton.mp h
    rw [hbehind, List.append_cons]
    exact Text.isBoundary_byteLength
  next => cases h

/-- The cuts of a field are boundaries of what the scan has seen up to it and behind it. -/
theorem isBoundary_of_mem_fieldOffsets
    (h : n ∈ fieldOffsets readable piece (Text.byteLength front) rest) :
    IsBoundary (front ++ rest) n := by
  rw [fieldOffsets] at h
  cases hdrop : rest.dropWhile (· ≠ '\x7d') with
  | nil =>
    rw [hdrop] at h
    cases h
  | cons brace after =>
    obtain ⟨hsplit, hbrace⟩ := split_of_dropWhile hdrop
    obtain rfl : brace = '\x7d' := by simpa using hbrace
    rw [hdrop] at h
    generalize rest.takeWhile (· ≠ '\x7d') = name at h hsplit
    subst hsplit
    simp only [List.mem_cons] at h
    obtain rfl | rfl | h := h
    · exact Text.isBoundary_byteLength
    · exact Text.isBoundary_append_iff.mpr Text.isBoundary_byteLength
    · split at h
      next hfield =>
        obtain ⟨behind, rfl⟩ := List.head?_eq_some_iff.mp hfield.2
        have hstart : Text.byteLength front + Text.byteLength name + 2 =
            Text.byteLength (front ++ (name ++ ['\x7d']) ++ ([] ++ [']'])) := by
          rw [Text.byteLength_behind rfl, Text.byteLength_behind rfl, Text.byteLength_nil]
        rw [hstart] at h
        simpa using isBoundary_of_mem_levelOffsets h
      next => cases h

/-- So are the cuts of a span. -/
theorem isBoundary_of_mem_spanOffsets
    (h : n ∈ spanOffsets readable piece (Text.byteLength front) rest) :
    IsBoundary (front ++ rest) n := by
  rw [spanOffsets] at h
  cases hdrop : rest.dropWhile (!endsSpan ·) with
  | nil =>
    rw [hdrop] at h
    cases h
  | cons mark after =>
    obtain ⟨hsplit, hmark⟩ := split_of_dropWhile hdrop
    have hends : endsSpan mark = true := by simpa using hmark
    have hmark : mark = ']' ∨ mark = '\x7b' := by simpa [endsSpan] using hends
    have hsize : mark.utf8Size = 1 := by obtain rfl | rfl := hmark <;> rfl
    rw [hdrop] at h
    generalize rest.takeWhile (!endsSpan ·) = name at h hsplit
    subst hsplit
    simp only [List.mem_cons] at h
    obtain rfl | rfl | h := h
    · exact Text.isBoundary_byteLength
    · exact Text.isBoundary_append_iff.mpr Text.isBoundary_byteLength
    · rw [← Text.byteLength_behind hsize] at h
      split at h
      · simpa using isBoundary_of_mem_levelOffsets h
      · simpa using isBoundary_of_mem_fieldOffsets h

theorem utf8Size_of_isMark {c : Char} (h : isMark c = true) : c.utf8Size = 1 := by
  have hmark : c = '=' ∨ c = '[' := by simpa [isMark] using h
  obtain rfl | rfl := hmark <;> rfl

/-- All cuts of a piece are boundaries of the piece without its blanks. -/
theorem isBoundary_trim (h : n ∈ offsets readable piece) : IsBoundary (Text.trim piece) n := by
  rw [offsets] at h
  split at h
  · cases hdrop : (Text.trim piece).dropWhile (!isMark ·) with
    | nil =>
      rw [hdrop] at h
      cases h
    | cons mark rest =>
      obtain ⟨hsplit, hmark⟩ := split_of_dropWhile hdrop
      rw [hdrop] at h
      generalize (Text.trim piece).takeWhile (!isMark ·) = first at h hsplit
      have hmark : isMark mark = true := by simpa using hmark
      have hbehind : Text.byteLength (first ++ ([] ++ [mark])) = Text.byteLength first + 1 :=
        Text.byteLength_behind (utf8Size_of_isMark hmark) first []
      rw [hsplit]
      dsimp only at h
      have hfirst : IsBoundary (first ++ mark :: rest) (Text.byteLength first) :=
        Text.isBoundary_byteLength
      have hspan (hn : n ∈ spanOffsets readable piece (Text.byteLength first + 1) rest) :
          IsBoundary (first ++ mark :: rest) n := by
        rw [List.append_cons]
        exact isBoundary_of_mem_spanOffsets (hbehind ▸ hn)
      split at h
      · simp only [List.mem_cons, List.not_mem_nil, or_false] at h
        obtain rfl | rfl | rfl := h
        · exact Text.isBoundary_zero
        · exact hfirst
        · rw [← hbehind, List.append_cons]
          exact Text.isBoundary_byteLength
      · split at h
        · next hstop => exact hspan (by rwa [hstop])
        · simp only [List.mem_cons] at h
          obtain rfl | rfl | h := h
          · exact Text.isBoundary_zero
          · exact hfirst
          · exact hspan h
  · cases h

/-- A piece that does not begin with a blank, or has no character of more than one byte, is not cut
amiss. -/
theorem ofPiece_ne_aborted
    (h : piece.head?.any Text.isBlank = false ∨ ∀ c ∈ piece, c.utf8Size = 1) :
    ofPiece readable piece ≠ .error .aborted := by
  rw [ne_eq, ofPiece_eq_aborted_iff]
  rintro ⟨n, hn, hcut⟩
  have htrim := isBoundary_trim hn
  refine hcut ?_
  obtain hhead | hsingle := h
  · obtain ⟨rest, hrest⟩ := Text.trimEnd_isPrefix (Text.trimStart piece)
    rw [Text.trimStart_eq_self hhead] at hrest
    rw [Text.trim, Text.trimStart_eq_self hhead] at htrim
    exact hrest ▸ htrim.append
  · exact Text.isBoundary_of_le hsingle (Nat.le_trans htrim.le (Text.byteLength_trim_le piece))

end Log.Directive

end Handoff

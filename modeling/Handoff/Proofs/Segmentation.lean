import Handoff.Echo
import Handoff.Proofs.Openings

/-!
# The segmentation of a byte string

`Segmentation` cuts a byte string without a word about ranges of bytes: where the encoding of a
character begins, that encoding is a segment; where none does, a segment is the longest truncated
encoding, or a single byte if there is none (`MalformedRun`). There is exactly one segmentation, and
it is what the reader finds (`segmentation_iff`). The proof follows the reader byte by byte, with
what it has seen put back in front of the bytes that are still to come.

A byte that can begin an encoding never continues one, so a segmentation can be cut in front of it
(`segments_append`). `echoText_segmentation` says what the echo shows of arguments of any bytes.
-/

namespace Handoff.Utf8

/-- Whether some bytes begin an encoding and are not all of it. -/
def Truncated (bytes : Bytes) : Prop :=
  bytes ≠ [] ∧ ∃ c tail, tail ≠ [] ∧ String.utf8EncodeChar c = bytes ++ tail

/-- Whether a byte can begin an encoding. -/
def Begins (b : UInt8) : Prop := ∃ c tail, String.utf8EncodeChar c = b :: tail

/-- What is cut off where no encoding begins. -/
inductive MalformedRun (remaining : Bytes) : Bytes → Prop
  /-- The longest truncated encoding. -/
  | truncated {run : Bytes} (hrun : run <+: remaining) (htruncated : Truncated run)
      (hlongest : ∀ other, other <+: remaining → Truncated other → other.length ≤ run.length) :
      MalformedRun remaining run
  /-- A single byte, if there is none. -/
  | stray {b : UInt8} (hrun : [b] <+: remaining)
      (hnone : ∀ other, other <+: remaining → ¬ Truncated other) : MalformedRun remaining [b]

/-- A cut of a byte string into encodings and malformed runs, from left to right. -/
inductive Segmentation : Bytes → List Segment → Prop
  | nil : Segmentation [] []
  | char {c : Char} {rest : Bytes} {segs : List Segment} (hrest : Segmentation rest segs) :
      Segmentation (String.utf8EncodeChar c ++ rest) (.char c :: segs)
  | malformed {run rest : Bytes} {segs : List Segment}
      (hnone : ∀ c, ¬ String.utf8EncodeChar c <+: run ++ rest)
      (hrun : MalformedRun (run ++ rest) run) (hrest : Segmentation rest segs) :
      Segmentation (run ++ rest) (.malformed run :: segs)

variable {b : UInt8} {c : Char} {bytes xs ys run rest remaining other tail : Bytes}
  {segs segs' : List Segment}

/-! ### There is one at most -/

namespace MalformedRun

theorem ne_nil (h : MalformedRun remaining run) : run ≠ [] := by
  cases h with
  | truncated _ htruncated => exact htruncated.1
  | stray => exact List.cons_ne_nil _ _

theorem isPrefix (h : MalformedRun remaining run) : run <+: remaining := by
  cases h with
  | truncated hrun => exact hrun
  | stray hrun => exact hrun

theorem unique (h : MalformedRun remaining run) (h' : MalformedRun remaining other) :
    run = other := by
  cases h with
  | truncated hrun htruncated hlongest =>
    cases h' with
    | truncated hother htruncated' hlongest' =>
      have hle := hlongest _ hother htruncated'
      have hge := hlongest' _ hrun htruncated
      exact (List.prefix_of_prefix_length_le hrun hother hge).eq_of_length (by omega)
    | stray _ hnone => exact absurd htruncated (hnone _ hrun)
  | stray hrun hnone =>
    cases h' with
    | truncated hother htruncated => exact absurd htruncated (hnone _ hother)
    | stray hother =>
      exact (List.prefix_of_prefix_length_le hrun hother (Nat.le_refl 1)).eq_of_length rfl

end MalformedRun

namespace Segmentation

theorem of_nil (h : Segmentation [] segs) : segs = [] := by
  generalize hbytes : ([] : Bytes) = bytes at h
  cases h with
  | nil => rfl
  | char => exact absurd (List.append_eq_nil_iff.mp hbytes.symm).1 String.utf8EncodeChar_ne_nil
  | malformed _ hrun => exact absurd (List.append_eq_nil_iff.mp hbytes.symm).1 hrun.ne_nil

theorem of_char (h : Segmentation (String.utf8EncodeChar c ++ rest) segs) :
    ∃ segs', segs = .char c :: segs' ∧ Segmentation rest segs' := by
  generalize hbytes : String.utf8EncodeChar c ++ rest = bytes at h
  cases h with
  | nil => exact absurd (List.append_eq_nil_iff.mp hbytes).1 String.utf8EncodeChar_ne_nil
  | char hrest =>
    obtain ⟨rfl, rfl⟩ := utf8EncodeChar_append_inj hbytes
    exact ⟨_, rfl, hrest⟩
  | malformed hnone => exact absurd ⟨rest, hbytes⟩ (hnone c)

theorem of_malformed (hnone : ∀ c, ¬ String.utf8EncodeChar c <+: run ++ rest)
    (hrun : MalformedRun (run ++ rest) run) (h : Segmentation (run ++ rest) segs) :
    ∃ segs', segs = .malformed run :: segs' ∧ Segmentation rest segs' := by
  generalize hbytes : run ++ rest = bytes at h
  cases h with
  | nil => exact absurd (List.append_eq_nil_iff.mp hbytes).1 hrun.ne_nil
  | @char c => exact absurd ⟨_, hbytes.symm⟩ (hnone c)
  | malformed _ hrun' hrest =>
    rw [← hbytes] at hrun'
    obtain rfl := hrun.unique hrun'
    obtain rfl := List.append_cancel_left hbytes
    exact ⟨_, rfl, hrest⟩

theorem unique (h : Segmentation bytes segs) (h' : Segmentation bytes segs') : segs = segs' := by
  induction h generalizing segs' with
  | nil => exact h'.of_nil.symm
  | char _ ih =>
    obtain ⟨_, rfl, hrest⟩ := h'.of_char
    rw [ih hrest]
  | malformed hnone hrun _ ih =>
    obtain ⟨_, rfl, hrest⟩ := of_malformed hnone hrun h'
    rw [ih hrest]

end Segmentation

/-! ### The reader finds it -/

/-- A byte that begins no encoding is a malformed run of its own. -/
theorem Segmentation.stray (hb : ¬ Begins b) (hrest : Segmentation rest segs) :
    Segmentation (b :: rest) (.malformed [b] :: segs) := by
  have hnone (other : Bytes) (hother : other <+: b :: rest) (hne : other ≠ []) (c : Char)
      (tail : Bytes) : String.utf8EncodeChar c ≠ other ++ tail := by
    intro hc
    obtain ⟨first, others, rfl⟩ := List.exists_cons_of_ne_nil hne
    obtain ⟨rfl, -⟩ := List.cons_prefix_cons.mp hother
    exact hb ⟨c, others ++ tail, hc⟩
  rw [← List.singleton_append]
  refine .malformed (fun c hc => ?_) (.stray (List.prefix_append _ _) ?_) hrest
  · exact hnone _ hc String.utf8EncodeChar_ne_nil c [] (List.append_nil _).symm
  · rintro other hother ⟨hne, c, tail, -, hc⟩
    exact hnone other hother hne c tail hc

namespace Opening.Faithful

variable {o : Opening}

/-- If no encoding goes on from what has been seen to the next byte, then none gets any further. -/
theorem length_le (hstop : ∀ b, rest.head? = some b → ∀ c tail,
      String.utf8EncodeChar c ≠ o.seen ++ b :: tail)
    (hother : other <+: o.seen ++ rest) (hc : String.utf8EncodeChar c = other ++ tail) :
    other.length ≤ o.seen.length := by
  refine Nat.le_of_not_lt fun hlt => ?_
  obtain ⟨more, rfl⟩ := List.prefix_of_prefix_length_le (List.prefix_append _ _) hother
    (Nat.le_of_lt hlt)
  have hmore : more <+: rest := (List.prefix_append_right_inj _).mp hother
  cases more with
  | nil => simp at hlt
  | cons b more =>
    obtain ⟨after, rfl⟩ := hmore
    exact hstop b rfl c (more ++ tail) (by rw [hc, List.append_assoc, List.cons_append])

/-- A sequence that cannot go on is the malformed run of what has been seen. -/
theorem segmentation (ho : o.Faithful) (hstop : ∀ b, rest.head? = some b → ∀ c tail,
      String.utf8EncodeChar c ≠ o.seen ++ b :: tail) (hrest : Segmentation rest segs) :
    Segmentation (o.seen ++ rest) (.malformed o.seen :: segs) := by
  obtain ⟨d, tail, htail, hd⟩ := ho.exists_encoding
  refine .malformed (fun c hc => ?_) (.truncated (List.prefix_append _ _)
    ⟨ho.seen_ne_nil, d, tail, htail, hd⟩ fun other hother htruncated => ?_) hrest
  · have hle := length_le hstop hc (List.append_nil _).symm
    obtain ⟨after, hafter⟩ := List.prefix_of_prefix_length_le hc (List.prefix_append _ _) hle
    have hsame : String.utf8EncodeChar c ++ (after ++ tail) = String.utf8EncodeChar d ++ [] := by
      rw [List.append_nil, hd, ← hafter, List.append_assoc]
    obtain ⟨-, hnil⟩ := utf8EncodeChar_append_inj hsame
    exact htail (List.append_eq_nil_iff.mp hnil).2
  · obtain ⟨-, c, tail, -, hc⟩ := htruncated
    exact length_le hstop hother hc

end Opening.Faithful

/-- The reader cuts what is still to come, with what it has seen of an open sequence in front. -/
theorem segmentation_segmentsFrom (bytes : Bytes) :
    Segmentation bytes (segmentsFrom none bytes) ∧
      ∀ o : Opening, o.Faithful → Segmentation (o.seen ++ bytes) (segmentsFrom (some o) bytes) := by
  induction bytes with
  | nil => exact ⟨.nil, fun o ho => ho.segmentation (by simp) .nil⟩
  | cons b bytes ih =>
    obtain ⟨hnext, hopen⟩ := ih
    -- The start comes first: an open sequence that is cut off reads its last byte there.
    have hstart : Segmentation (b :: bytes) (segmentsFrom none (b :: bytes)) := by
      rw [segmentsFrom_cons, step]
      obtain ⟨c, hc, hb⟩ | ⟨o, hseen, ho, hb⟩ | ⟨hnone, hb⟩ := start_cases b
      · rw [hb, ← List.singleton_append, ← hc]
        exact .char hnext
      · rw [hb, ← List.singleton_append, ← hseen]
        exact hopen o ho
      · rw [hb]
        refine .stray ?_ hnext
        rintro ⟨c, tail, hc⟩
        exact hnone c tail hc
    refine ⟨hstart, fun o ho => ?_⟩
    rw [segmentsFrom_cons, step]
    obtain ⟨c, hc, hb⟩ | ⟨other, hseen, hother, hb⟩ | ⟨hnone, hb⟩ := ho.feed_cases b
    · rw [hb, List.append_cons, ← hc]
      exact .char hnext
    · rw [hb, List.append_cons, ← hseen]
      exact hopen other hother
    · rw [hb]
      refine ho.segmentation (fun b' hb' => ?_) hstart
      cases hb'
      exact hnone

theorem segmentation_segments (bytes : Bytes) : Segmentation bytes (segments bytes) :=
  (segmentation_segmentsFrom bytes).1

/-- **The reader's segments are the one segmentation that there is.** -/
theorem segmentation_iff : Segmentation bytes segs ↔ segs = segments bytes :=
  ⟨fun h => h.unique (segmentation_segments bytes), fun h => h ▸ segmentation_segments bytes⟩

theorem forall₂_segmentation_iff {args : List Bytes} {segs : List (List Segment)} :
    List.Forall₂ Segmentation args segs ↔ segs = args.map segments := by
  induction args generalizing segs with
  | nil => exact List.forall₂_nil_left_iff
  | cons arg args ih =>
    cases segs with
    | nil => simp
    | cons first segs =>
      rw [List.forall₂_cons, segmentation_iff, ih, List.map_cons, List.cons.injEq]

/-! ### Where a segmentation can be cut -/

/-- A byte that can begin an encoding does not stand further back in one. -/
theorem not_begins_of_mem_tail (hc : String.utf8EncodeChar c = b :: tail) {x : UInt8}
    (hx : x ∈ tail) : ¬ Begins x := by
  rintro ⟨d, others, hd⟩
  have hcontinues := continues_of_utf8EncodeChar hc hx
  have hlead := lead_of_utf8EncodeChar hd
  omega

/-- No encoding reaches over bytes and a byte behind them that can begin one. -/
theorem prefix_of_prefix_append (hb : Begins b) (hremaining : remaining ≠ [])
    (hother : other <+: remaining ++ b :: ys) (hc : String.utf8EncodeChar c = other ++ tail) :
    other <+: remaining := by
  have hremaining' : remaining <+: remaining ++ b :: ys := List.prefix_append _ _
  obtain hlt | hle := Nat.lt_or_ge remaining.length other.length
  · obtain ⟨more, rfl⟩ := List.prefix_of_prefix_length_le hremaining' hother (Nat.le_of_lt hlt)
    have hmore : more <+: b :: ys := (List.prefix_append_right_inj _).mp hother
    cases more with
    | nil => simp at hlt
    | cons x more =>
      obtain ⟨rfl, -⟩ := List.cons_prefix_cons.mp hmore
      obtain ⟨first, others, rfl⟩ := List.exists_cons_of_ne_nil hremaining
      exact absurd hb (not_begins_of_mem_tail hc (by simp))
  · exact List.prefix_of_prefix_length_le hother hremaining' hle

theorem MalformedRun.append_right (h : MalformedRun remaining run) (hb : Begins b) :
    MalformedRun (remaining ++ b :: ys) run := by
  have hremaining : remaining ≠ [] := fun hnil =>
    h.ne_nil (List.prefix_nil.mp (hnil ▸ h.isPrefix))
  cases h with
  | truncated hrun htruncated hlongest =>
    refine .truncated (hrun.trans (List.prefix_append _ _)) htruncated
      fun other hother htruncated' => hlongest other ?_ htruncated'
    obtain ⟨-, c, tail, -, hc⟩ := htruncated'
    exact prefix_of_prefix_append hb hremaining hother hc
  | stray hrun hnone =>
    refine .stray (hrun.trans (List.prefix_append _ _)) fun other hother htruncated =>
      hnone other ?_ htruncated
    obtain ⟨-, c, tail, -, hc⟩ := htruncated
    exact prefix_of_prefix_append hb hremaining hother hc

theorem Segmentation.append (h : Segmentation xs segs) (hb : Begins b)
    (h' : Segmentation (b :: ys) segs') : Segmentation (xs ++ b :: ys) (segs ++ segs') := by
  induction h with
  | nil => exact h'
  | char _ ih =>
    rw [List.append_assoc]
    exact .char ih
  | @malformed run rest _ hnone hrun _ ih =>
    rw [List.append_assoc]
    have hremaining : run ++ rest ≠ [] := List.append_ne_nil_of_left_ne_nil hrun.ne_nil _
    refine .malformed (fun c hc => hnone c ?_) ?_ ih
    · rw [← List.append_assoc] at hc
      exact prefix_of_prefix_append hb hremaining hc (List.append_nil _).symm
    · rw [← List.append_assoc]
      exact hrun.append_right hb

/-- The segments are those in front of a byte that can begin an encoding, and those from there. -/
theorem segments_append (hb : Begins b) (xs ys : Bytes) :
    segments (xs ++ b :: ys) = segments xs ++ segments (b :: ys) :=
  (segmentation_iff.mp ((segmentation_segments xs).append hb (segmentation_segments _))).symm

/-! ### What the segments are -/

/-- A malformed run stands where no encoding begins. -/
theorem Segmentation.of_mem_malformed (h : Segmentation bytes segs) (hrun : .malformed run ∈ segs) :
    ∃ rest, (∀ c, ¬ String.utf8EncodeChar c <+: run ++ rest) ∧ MalformedRun (run ++ rest) run := by
  induction h with
  | nil => cases hrun
  | char _ ih =>
    cases hrun with
    | tail _ hrun => exact ih hrun
  | malformed hnone hmalformed _ ih =>
    cases hrun with
    | head => exact ⟨_, hnone, hmalformed⟩
    | tail _ hrun => exact ih hrun

theorem MalformedRun.not_begins_of_mem_tail (h : MalformedRun remaining run) :
    ∀ b ∈ run.tail, ¬ Begins b := by
  intro b hb
  cases h with
  | truncated _ htruncated =>
    obtain ⟨hne, c, tail, -, hc⟩ := htruncated
    obtain ⟨first, others, rfl⟩ := List.exists_cons_of_ne_nil hne
    exact Utf8.not_begins_of_mem_tail hc (List.mem_append_left _ hb)
  | stray => cases hb

theorem flatMap_bytes_segments (bytes : Bytes) :
    (segments bytes).flatMap Segment.bytes = bytes := by
  have h := segmentation_segments bytes
  generalize segments bytes = segs at h
  induction h with
  | nil => rfl
  | char _ ih | malformed _ _ _ ih => rw [List.flatMap_cons, ih, Segment.bytes]

/-- The segments of an encoded text are its characters. -/
theorem segments_ofChars (cs : List Char) : segments (Bytes.ofChars cs) = cs.map .char := by
  refine (segmentation_iff.mp ?_).symm
  induction cs with
  | nil => exact .nil
  | cons c cs ih => exact .char ih

theorem mapM_char?_eq_some_iff {cs : List Char} :
    segs.mapM Segment.char? = some cs ↔ segs = cs.map .char := by
  induction segs generalizing cs with
  | nil => cases cs <;> simp
  | cons seg segs ih =>
    rw [List.mapM_cons]
    cases seg with
    | malformed run => cases cs <;> simp [Segment.char?]
    | char c =>
      cases hrest : segs.mapM Segment.char? with
      | none =>
        have hnone (ds : List Char) : segs ≠ ds.map .char := fun h =>
          nomatch hrest.symm.trans (ih.mpr h)
        cases cs <;> simp [Segment.char?, hnone]
      | some ds =>
        obtain rfl := ih.mp hrest
        cases cs with
        | nil => simp [Segment.char?]
        | cons d cs =>
          have hinj : Function.Injective Segment.char := fun _ _ h => Segment.char.inj h
          simp [Segment.char?, hinj.eq_iff, List.map_inj_right hinj]

/-- A byte string is text if and only if it is the encoding of that text. -/
theorem decode?_eq_some_iff {cs : List Char} :
    decode? bytes = some cs ↔ bytes = Bytes.ofChars cs := by
  rw [decode?, mapM_char?_eq_some_iff]
  constructor
  · intro h
    rw [← flatMap_bytes_segments bytes, h, List.flatMap_map]
    rfl
  · rintro rfl
    exact segments_ofChars cs

@[simp] theorem decodeLossy_ofChars (cs : List Char) : decodeLossy (Bytes.ofChars cs) = cs := by
  rw [decodeLossy, segments_ofChars, List.map_map]
  exact List.map_id' cs

end Handoff.Utf8

namespace Handoff

open Utf8 (Segment Segmentation segments)

/-- **What the echo shows of its arguments**, whatever their bytes. Each argument has exactly one
segmentation, which leaves out no byte and takes none twice; its text is that of the encoded
characters, with one replacement character for each malformed run. An argument is echoed byte for
byte if and only if it is the encoding of a text, and reading the echo again changes nothing. Behind
its first byte, a malformed run holds no byte that could begin an encoding: at such a byte the
segmentation always starts afresh. -/
theorem echoText_segmentation (args : List Bytes) :
    (∀ segs : List (List Segment),
      List.Forall₂ Segmentation args segs ↔ segs = args.map segments) ∧
    echoText args = [' '].intercalate ((args.map segments).map (List.map Segment.shown)) ∧
    Utf8.decodeLossy (echoBytes args) = echoText args ∧
    ∀ arg : Bytes,
      (segments arg).flatMap Segment.bytes = arg ∧
      (echoBytes [arg] = arg ↔ ∃ cs, Bytes.ofChars cs = arg) ∧
      (∀ run, .malformed run ∈ segments arg → ∀ b ∈ run.tail, ¬ Utf8.Begins b) ∧
      ∀ before b after, arg = before ++ b :: after → Utf8.Begins b →
        segments arg = segments before ++ segments (b :: after) := by
  refine ⟨fun _ => Utf8.forall₂_segmentation_iff, ?_, Utf8.decodeLossy_ofChars _, fun arg =>
    ⟨Utf8.flatMap_bytes_segments arg, ⟨fun h => ⟨_, h⟩, ?_⟩, fun run hrun => ?_, ?_⟩⟩
  · rw [List.map_map]
    rfl
  · rintro ⟨cs, rfl⟩
    simp [echoBytes, echoText]
  · obtain ⟨rest, -, hmalformed⟩ := (Utf8.segmentation_segments arg).of_mem_malformed hrun
    exact hmalformed.not_begins_of_mem_tail
  · rintro before b after rfl hb
    exact Utf8.segments_append hb before after

/-- Truncated after two and after three bytes, a surrogate, and a character right behind it all. -/
theorem echoText_segmentation_truncated :
    let arg : Bytes := [0x61, 0xe0, 0xa0, 0xed, 0xa0, 0xf0, 0x9f, 0x98, 0xc3, 0xa9]
    let segs : List Segment := [.char 'a', .malformed [0xe0, 0xa0], .malformed [0xed],
      .malformed [0xa0], .malformed [0xf0, 0x9f, 0x98], .char 'é']
    Segmentation arg segs ∧
    echoText [arg] = ['a', '\uFFFD', '\uFFFD', '\uFFFD', '\uFFFD', 'é'] ∧
    (∀ b ∈ ([0x9f, 0x98] : Bytes), ¬ Utf8.Begins b) ∧
    segs = segments [0x61, 0xe0, 0xa0, 0xed, 0xa0, 0xf0, 0x9f, 0x98] ++ segments [0xc3, 0xa9] := by
  intro arg segs
  obtain ⟨hunique, htext, -, hargs⟩ := echoText_segmentation [arg]
  obtain ⟨-, -, hruns, hcut⟩ := hargs arg
  have hsegs : segments arg = segs := by decide
  have hbegins : Utf8.Begins 0xc3 := ⟨'é', [0xa9], by decide⟩
  refine ⟨?_, htext.trans (by decide), hruns [0xf0, 0x9f, 0x98] (by decide), ?_⟩
  · have hall := (hunique [segs]).mpr (by rw [← hsegs]; rfl)
    exact (List.forall₂_cons.mp hall).1
  · rw [← hsegs]
    exact hcut _ 0xc3 [0xa9] rfl hbegins

end Handoff

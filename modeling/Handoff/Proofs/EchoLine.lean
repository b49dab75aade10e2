import Handoff.Proofs.RunOutcome
import Handoff.Proofs.Segmentation

/-!
# The echo as a line

A byte below 0x80 closes whatever is open in front of it, so decoding goes through joining
(`Utf8.segments_intercalate`): the line that shows some arguments is the arguments joined first and
decoded once (`echoText_join`).

No such byte is part of a malformed run either, so it is found in a decoded text as often as in the
bytes (`Utf8.count_ofChars_decodeLossy`). The end of a line is such a byte, and the echo passes it
on like any other: the echo is one line if and only if no argument holds the end of one
(`handOver_framing`).
-/

namespace Handoff

/-! ### Joining -/

section

variable {α β : Type}

/-- A function that goes through a separator goes through joining. -/
theorem apply_intercalate {f : List α → List β} {sep : List α} {sep' : List β} (hnil : f [] = [])
    (happend : ∀ xs ys, f (xs ++ sep ++ ys) = f xs ++ sep' ++ f ys) (pieces : List (List α)) :
    f (sep.intercalate pieces) = sep'.intercalate (pieces.map f) := by
  induction pieces with
  | nil => exact hnil
  | cons piece pieces ih =>
    cases pieces with
    | nil => simp
    | cons next pieces =>
      rw [List.map_cons] at ih
      rw [List.intercalate_cons_cons, happend, ih, List.map_cons, List.map_cons,
        List.intercalate_cons_cons]

/-- What a separator does not hold is found in the pieces. -/
theorem count_intercalate [BEq α] [LawfulBEq α] {a : α} {sep : List α} (ha : a ∉ sep)
    (pieces : List (List α)) :
    (sep.intercalate pieces).count a = pieces.flatten.count a := by
  induction pieces with
  | nil => rfl
  | cons piece pieces ih =>
    cases pieces with
    | nil => simp
    | cons next pieces =>
      rw [List.flatten_cons, List.count_append, ← ih, List.intercalate_cons_cons,
        List.count_append, List.count_append, List.count_eq_zero.mpr ha, Nat.add_zero]

end

namespace Utf8

theorem begins_of_ascii {b : UInt8} (hb : b < 0x80) : Begins b := ⟨_, [], utf8EncodeChar_ascii hb⟩

/-- A space is a segment of its own, and those before and after it do not change. -/
theorem segments_append_space (before after : Bytes) :
    segments (before ++ [Bytes.space] ++ after) =
      segments before ++ [.char ' '] ++ segments after := by
  have hspace : Bytes.space < 0x80 := by decide
  have hcons : segments (Bytes.space :: after) = .char ' ' :: segments after :=
    segmentsFrom_ascii none hspace after fun _ h => nomatch h
  rw [List.append_assoc, List.singleton_append, segments_append (begins_of_ascii hspace), hcons,
    List.append_assoc, List.singleton_append]

theorem segments_intercalate (pieces : List Bytes) :
    segments ([Bytes.space].intercalate pieces) =
      [Segment.char ' '].intercalate (pieces.map segments) :=
  apply_intercalate segments_nil segments_append_space pieces

theorem decodeLossy_append_space (before after : Bytes) :
    decodeLossy (before ++ [Bytes.space] ++ after) =
      decodeLossy before ++ [' '] ++ decodeLossy after := by
  rw [decodeLossy, segments_append_space, List.map_append, List.map_append]
  rfl

theorem decodeLossy_intercalate (pieces : List Bytes) :
    decodeLossy ([Bytes.space].intercalate pieces) = [' '].intercalate (pieces.map decodeLossy) :=
  apply_intercalate rfl decodeLossy_append_space pieces

end Utf8

open Utf8 (Segment segments)

/-- **The arguments of a line, decoded one by one or all at once.** The text that shows them is that
of their bytes joined by spaces; the segments of each argument are found again in the line, with the
spaces between them, whatever its last sequence lacks. A line that is cut at its spaces shows as
many replacement characters as before. -/
theorem echoText_join (args : List Bytes) :
    echoText args = Utf8.decodeLossy ([Bytes.space].intercalate args) ∧
    segments ([Bytes.space].intercalate args) =
      [Segment.char ' '].intercalate (args.map segments) ∧
    ∀ line : Bytes, (Utf8.decodeLossy line).count Utf8.replacement =
      ((line.splitOn Bytes.space).flatMap Utf8.decodeLossy).count Utf8.replacement := by
  refine ⟨(Utf8.decodeLossy_intercalate args).symm, Utf8.segments_intercalate args, fun line => ?_⟩
  have hspace : Utf8.replacement ∉ [' '] := by decide
  have hcount := count_intercalate hspace ((line.splitOn Bytes.space).map Utf8.decodeLossy)
  rwa [← Utf8.decodeLossy_intercalate, List.intercalate_splitOn, ← List.flatMap_def] at hcount

/-! ### The ends of lines -/

namespace Utf8

variable {b : UInt8} {run rest : Bytes}

/-- A malformed run holds no byte below 0x80. -/
theorem MalformedRun.not_ascii_of_mem (h : MalformedRun (run ++ rest) run)
    (hnone : ∀ c, ¬ String.utf8EncodeChar c <+: run ++ rest) (hb : b ∈ run) : ¬ b < 0x80 := by
  intro hascii
  obtain ⟨first, others, rfl⟩ := List.exists_cons_of_ne_nil h.ne_nil
  rcases List.mem_cons.mp hb with rfl | hb
  · refine hnone (Char.ofNat b.toNat) ?_
    rw [utf8EncodeChar_ascii hascii]
    exact List.prefix_append [b] (others ++ rest)
  · exact h.not_begins_of_mem_tail b hb (begins_of_ascii hascii)

/-- Decoding keeps every byte below 0x80. -/
theorem count_ofChars_decodeLossy (hb : b < 0x80) (bytes : Bytes) :
    (Bytes.ofChars (decodeLossy bytes)).count b = bytes.count b := by
  have h := segmentation_segments bytes
  rw [decodeLossy]
  generalize segments bytes = segs at h
  induction h with
  | nil => rfl
  | char _ ih =>
    rw [List.map_cons, Segment.shown, Bytes.ofChars_cons, List.count_append, List.count_append, ih]
  | @malformed run rest segs hnone hrun _ ih =>
    have hrun : run.count b = 0 :=
      List.count_eq_zero.mpr fun hmem => hrun.not_ascii_of_mem hnone hmem hb
    have hshown : (String.utf8EncodeChar replacement).count b = 0 := by
      have hencoded : String.utf8EncodeChar replacement = [0xef, 0xbf, 0xbd] := rfl
      refine List.count_eq_zero.mpr fun hmem => ?_
      simp only [hencoded, List.mem_cons, List.not_mem_nil, or_false] at hmem
      obtain rfl | rfl | rfl := hmem <;> exact absurd hb (by decide)
    rw [List.map_cons, Segment.shown, Bytes.ofChars_cons, List.count_append, List.count_append, ih,
      hrun, hshown]

end Utf8

namespace Bytes

variable {line after : Bytes}

/-- The bytes up to the end of the first line. -/
def firstLine (bytes : Bytes) : Bytes := bytes.takeWhile (· ≠ newline)

/-- The bytes behind the end of the first line. -/
def afterFirstLine (bytes : Bytes) : Bytes := (bytes.dropWhile (· ≠ newline)).tail

private theorem ne_newline_of_mem (h : newline ∉ line) : ∀ b ∈ line, decide (b ≠ newline) = true :=
  fun _ hb => decide_eq_true fun heq => h (heq ▸ hb)

theorem firstLine_append (h : newline ∉ line) (after : Bytes) :
    firstLine (line ++ newline :: after) = line := by
  rw [firstLine, List.takeWhile_append_of_pos (ne_newline_of_mem h),
    List.takeWhile_cons_of_neg (by simp), List.append_nil]

theorem afterFirstLine_append (h : newline ∉ line) (after : Bytes) :
    afterFirstLine (line ++ newline :: after) = after := by
  rw [afterFirstLine, List.dropWhile_append_of_pos (ne_newline_of_mem h),
    List.dropWhile_cons_of_neg (by simp), List.tail_cons]

/-- Bytes that an end of line follows are the first line if and only if they hold none. -/
theorem firstLine_append_eq_iff :
    firstLine (line ++ newline :: after) = line ↔ newline ∉ line := by
  refine ⟨fun h hmem => ?_, fun h => firstLine_append h after⟩
  have hall : (firstLine (line ++ newline :: after)).all (· ≠ newline) = true :=
    List.all_takeWhile
  rw [h] at hall
  exact of_decide_eq_true (List.all_eq_true.mp hall newline hmem) rfl

theorem afterFirstLine_append_eq_iff :
    afterFirstLine (line ++ newline :: after) = after ↔ newline ∉ line := by
  refine ⟨fun h hmem => ?_, fun h => afterFirstLine_append h after⟩
  -- Behind the first of two ends of lines there are more bytes than behind the second.
  obtain ⟨first, others, rfl, hfirst⟩ := List.eq_append_cons_of_mem hmem
  rw [List.append_assoc, List.cons_append, afterFirstLine_append hfirst] at h
  have hlength := congrArg List.length h
  rw [List.length_append, List.length_cons] at hlength
  omega

end Bytes

theorem count_newline_echoBytes (args : List Bytes) :
    (echoBytes args).count Bytes.newline = args.flatten.count Bytes.newline := by
  have hspace : Bytes.newline ∉ [Bytes.space] := by decide
  rw [echoBytes, echoText, ← Utf8.decodeLossy_intercalate,
    Utf8.count_ofChars_decodeLossy (by decide), count_intercalate hspace]

theorem newline_not_mem_echoBytes_iff {args : List Bytes} :
    Bytes.newline ∉ echoBytes args ↔ ∀ arg ∈ args, Bytes.newline ∉ arg := by
  rw [← List.count_eq_zero, count_newline_echoBytes, List.count_eq_zero, List.mem_flatten]
  simp only [not_exists, not_and]

/-- The echo is the first line of an output, and the rest of it is behind, if and only if no
argument holds the end of a line. -/
theorem firstLine_echoLine_iff {args : List Bytes} {after : Bytes} :
    Bytes.firstLine (echoLine args ++ after) = echoBytes args ↔
      ∀ arg ∈ args, Bytes.newline ∉ arg := by
  rw [echoLine, List.append_assoc, List.singleton_append, Bytes.firstLine_append_eq_iff,
    newline_not_mem_echoBytes_iff]

theorem afterFirstLine_echoLine_iff {args : List Bytes} {after : Bytes} :
    Bytes.afterFirstLine (echoLine args ++ after) = after ↔ ∀ arg ∈ args, Bytes.newline ∉ arg := by
  rw [echoLine, List.append_assoc, List.singleton_append, Bytes.afterFirstLine_append_eq_iff,
    newline_not_mem_echoBytes_iff]

/-! ### The output of a hand-over and of a run -/

/-- What a runner wrote to its standard output, if it was started. -/
def Attempt.output : Attempt → Bytes
  | .unstarted _ => []
  | .ended done => done.output

theorem Call.output_run_of_working {ω : Type} {library : Library} {launch : Launcher ω}
    {call : Call ω} (hworking : call.streams.output.Working)
    (hjudge : library.judge? call.settings.logFilter ≠ none) :
    (call.runWith library launch).output =
      echoLine call.forwarded ++ (launch.outcome call.world call.commandLine).output := by
  obtain ⟨judge, hjudge⟩ := Option.ne_none_iff_exists'.mp hjudge
  rw [output_run hjudge (echoes_of_working hworking), Sink.arrived_of_unlimited hworking.unlimited]
  cases launch.outcome call.world call.commandLine <;> rfl

/-- **How the output is framed** by a sink that takes everything. What is written before the
facility is called ends with the end of a line, and holds one more for each end of a line in the
arguments. It is one line if and only if no argument holds the end of one; and if and only if none
does, the first line of the output is the echo, and all bytes behind it are those that follow. So it
is with the output of the program, with any library, and what its runner wrote. -/
theorem handOver_framing {σ ε : Type} (facility : Facility σ ε) (args : List Bytes) (sink : Sink)
    (state : σ) (hsink : sink.Advancing) (hlimit : sink.limit = none) :
    let oneLine := ∀ arg ∈ args, Bytes.newline ∉ arg
    (∃ written : Bytes,
      (handOver facility args sink state).events = .wrote written :: .flushed ::
        (if sink.nextFlushFault? = none then [.called args] else []) ∧
      written = echoBytes args ++ [Bytes.newline] ∧
      written.count Bytes.newline = args.flatten.count Bytes.newline + 1 ∧
      (written.count Bytes.newline = 1 ↔ oneLine) ∧
      ∀ after : Bytes,
        (Bytes.firstLine (written ++ after) = echoBytes args ↔ oneLine) ∧
        (Bytes.afterFirstLine (written ++ after) = after ↔ oneLine)) ∧
    ∀ (ω : Type) (library : Library) (launch : Launcher ω) (call : Call ω),
      call.forwarded = args → call.streams.output.Working →
      library.judge? call.settings.logFilter ≠ none →
      (Bytes.firstLine (call.runWith library launch).output = echoBytes args ↔ oneLine) ∧
      (Bytes.afterFirstLine (call.runWith library launch).output =
        (launch.outcome call.world call.commandLine).output ↔ oneLine) := by
  intro oneLine
  have hcount : (echoLine args).count Bytes.newline = (echoBytes args).count Bytes.newline + 1 := by
    rw [echoLine, List.count_append, List.count_singleton_self]
  refine ⟨⟨echoLine args, handOver_events_of_unlimited hsink hlimit, rfl, ?_, ?_, fun after =>
    ⟨firstLine_echoLine_iff, afterFirstLine_echoLine_iff⟩⟩, ?_⟩
  · rw [hcount, count_newline_echoBytes]
  · rw [hcount, Nat.add_eq_right, List.count_eq_zero]
    exact newline_not_mem_echoBytes_iff
  · rintro ω library launch call rfl hworking hjudge
    rw [Call.output_run_of_working hworking hjudge]
    exact ⟨firstLine_echoLine_iff, afterFirstLine_echoLine_iff⟩

/-- An echo of one line, sent in pieces, with a byte that is not UTF-8 and an empty argument. -/
theorem handOver_framing_in_pieces :
    let sink : Sink := { Sink.unbounded with chunk := some 2, interrupts := [1, 1] }
    let args : List Bytes := [[0x61, 0xff], []]
    let launch : Launcher Unit := fun world _ => (world, .ok ⟨.exited 0, [0x6f, 0x0a, 0x6b], []⟩)
    let call : Call Unit := ⟨⟨[]⟩, [0x61] :: args, sink, ()⟩
    sink.Advancing ∧ sink.limit = none ∧
    (∃ written, (handOver Facility.scripted args sink [.ok 7]).events =
      [.wrote written, .flushed, .called args] ∧ written.count Bytes.newline = 1) ∧
    Bytes.firstLine (call.run launch).output = [0x61, 0xef, 0xbf, 0xbd, 0x20] ∧
    Bytes.afterFirstLine (call.run launch).output = [0x6f, 0x0a, 0x6b] := by
  intro sink args launch call
  have hsink : sink.Advancing := by simp [sink, Sink.Advancing]
  have hworking : call.streams.output.Working := ⟨hsink, rfl, rfl⟩
  have hjudge : Library.standard.judge? call.settings.logFilter ≠ none :=
    Option.isSome_iff_ne_none.mp (by decide +kernel)
  have honeLine : ∀ arg ∈ args, Bytes.newline ∉ arg := by decide
  obtain ⟨⟨written, hevents, -, -, hcount, -⟩, hrun⟩ :=
    handOver_framing Facility.scripted args sink [.ok 7] hsink rfl
  obtain ⟨hfirst, hafter⟩ := hrun Unit .standard launch call rfl hworking hjudge
  refine ⟨hsink, rfl, ⟨written, hevents, hcount.mpr honeLine⟩, ?_, ?_⟩
  · exact (hfirst.mpr honeLine).trans (by decide)
  · exact (hafter.mpr honeLine).trans (by decide +kernel)

/-- An argument of two lines makes an echo of two lines, although nothing follows it. -/
theorem handOver_framing_two_lines :
    let sink : Sink := Sink.unbounded
    let args : List Bytes := [[0x61, 0x0a, 0x62]]
    let done := handOver Facility.scripted args sink [.ok 0]
    sink.Advancing ∧ sink.limit = none ∧
    done.events = [.wrote [0x61, 0x0a, 0x62, 0x0a], .flushed, .called args] ∧
    (Event.written done.events).count Bytes.newline = 2 ∧
    Bytes.firstLine (Event.written done.events) ≠ echoBytes args ∧
    Bytes.afterFirstLine (Event.written done.events) ≠ [] := by
  intro sink args done
  have hsink : sink.Advancing := by simp [sink, Sink.Advancing, Sink.unbounded]
  have hevents : done.events = [.wrote [0x61, 0x0a, 0x62, 0x0a], .flushed, .called args] :=
    handOver_events_of_unlimited hsink rfl
  refine ⟨hsink, rfl, hevents, ?_⟩
  rw [hevents]
  decide

end Handoff

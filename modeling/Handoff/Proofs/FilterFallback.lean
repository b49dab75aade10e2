import Handoff.Proofs.DirectiveCuts
import Handoff.Proofs.LogSetting

/-!
# A run whose log filter is invalid

A filter is read piece by piece, and the first piece that gives no directive decides what becomes of
it (`Filter.ofText_eq_error_iff`). If that piece is invalid, the run goes on under the default
filter, whatever the other pieces are. If it is cut inside a character, the run is broken off before
it began: nothing is echoed and nothing started. `Call.run_logSetting` says which of the two it is,
for any library that reads filters by the grammar of directives.
-/

namespace Handoff

variable {ω : Type}

section

variable {α β ε : Type} {read : α → Except ε β} {items : List α} {fault : ε}

/-- A list is read up to the first element that fails. -/
theorem mapM_eq_error_iff : items.mapM read = .error fault ↔ ∃ before item after,
    items = before ++ item :: after ∧ (∀ earlier ∈ before, ∃ value, read earlier = .ok value) ∧
      read item = .error fault := by
  constructor
  · intro h
    induction items with
    | nil => cases h
    | cons first items ih =>
      rw [List.mapM_cons] at h
      cases hfirst : read first with
      | error other =>
        rw [hfirst] at h
        cases h
        exact ⟨[], first, items, rfl, nofun, hfirst⟩
      | ok value =>
        have hrest : items.mapM read = .error fault := by
          cases hitems : items.mapM read with
          | error other => simpa [hfirst, hitems, bind, Except.bind] using h
          | ok values => simp [hfirst, hitems, bind, Except.bind, pure, Except.pure] at h
        obtain ⟨before, item, after, rfl, hbefore, hitem⟩ := ih hrest
        exact ⟨first :: before, item, after, rfl,
          List.forall_mem_cons.mpr ⟨⟨value, hfirst⟩, hbefore⟩, hitem⟩
  · rintro ⟨before, item, after, rfl, hbefore, hitem⟩
    induction before with
    | nil => simp [List.mapM_cons, hitem, bind, Except.bind]
    | cons first before ih =>
      obtain ⟨⟨value, hfirst⟩, hbefore⟩ := List.forall_mem_cons.mp hbefore
      rw [List.cons_append, List.mapM_cons, hfirst, ih hbefore]
      rfl

theorem mapM_eq_error_of_mem {item : α} (hmem : item ∈ items) (h : read item = .error fault) :
    ∃ first, items.mapM read = .error first := by
  induction items with
  | nil => cases hmem
  | cons head items ih =>
    cases hhead : read head with
    | error other => exact ⟨other, by simp [List.mapM_cons, hhead, bind, Except.bind]⟩
    | ok value =>
      obtain rfl | hmem := List.mem_cons.mp hmem
      · cases hhead.symm.trans h
      · obtain ⟨first, hfirst⟩ := ih hmem
        exact ⟨first, by simp [List.mapM_cons, hhead, hfirst, bind, Except.bind]⟩

end

namespace Log.Filter

variable {readable : List Char → Bool} {text : String} {fault : FilterFault}

theorem ofText_eq_error_iff_mapM : ofText readable text = .error fault ↔
    (pieces text.toList).mapM (Directive.ofPiece readable) = .error fault := by
  rw [ofText]
  cases (pieces text.toList).mapM (Directive.ofPiece readable) <;>
    simp [bind, Except.bind, pure, Except.pure]

/-- The first piece that gives no directive is what is wrong with a filter. -/
theorem ofText_eq_error_iff : ofText readable text = .error fault ↔ ∃ before piece after,
    pieces text.toList = before ++ piece :: after ∧
      (∀ earlier ∈ before, ∃ directive, Directive.ofPiece readable earlier = .ok directive) ∧
      Directive.ofPiece readable piece = .error fault :=
  ofText_eq_error_iff_mapM.trans mapM_eq_error_iff

theorem shows_default (event : Metadata) : default.shows event = (event.severity == .warn) := by
  obtain ⟨target, severity, fields⟩ := event
  cases severity <;> rfl

end Log.Filter

namespace Library

variable {library : Library} {readable : List Char → Bool} {text : String}

namespace ReadsDirectives

theorem judge?_eq_none_iff (h : library.ReadsDirectives readable) :
    library.judge? text = none ↔ Log.Filter.ofText readable text = .error .aborted := by
  rw [judge?, h.filter, h.default]
  cases Log.Filter.ofText readable text with
  | ok filter => simp [Except.map]
  | error fault => cases fault <;> simp [Except.map]

theorem judge?_default (h : library.ReadsDirectives readable) :
    library.judge? Settings.defaultLogFilter = some Log.Filter.default.shows :=
  judge?_of_ok (by rw [h.filter]; rfl)

/-- A filter with an invalid piece is the default one, unless it cannot be read at all. -/
theorem judge?_of_invalid (h : library.ReadsDirectives readable) {piece : List Char}
    (hmem : piece ∈ Log.Filter.pieces text.toList)
    (hpiece : Log.Directive.ofPiece readable piece = .error .invalid)
    (hread : library.judge? text ≠ none) :
    library.judge? text = some Log.Filter.default.shows := by
  obtain ⟨first, hfirst⟩ := mapM_eq_error_of_mem hmem hpiece
  have htext : Log.Filter.ofText readable text = .error first :=
    Log.Filter.ofText_eq_error_iff_mapM.mpr hfirst
  cases first with
  | invalid => rw [judge?, h.filter, htext, Except.map, h.default]
  | aborted => exact absurd (h.judge?_eq_none_iff.mpr htext) hread

end ReadsDirectives

end Library

namespace Call

variable {library : Library} {launch : Launcher ω} {call : Call ω}

theorem runWith_eq_brokenOff_iff : call.runWith library launch = brokenOff ↔
    library.judge? call.settings.logFilter = none := by
  rw [runWith]
  cases library.judge? call.settings.logFilter with
  | none => simp
  | some judge => simp [runUnder, brokenOff]

/-- **A run with some text for its log filter.** It is broken off if and only if the first piece
that gives no directive is cut at an offset that is no boundary of it. That takes a piece with a
blank in front and a character of several bytes. If some piece is invalid, wherever it stands, any
run that is not broken off is the one with the default filter, which shows the warnings alone. -/
theorem run_logSetting {library : Library} {readable : List Char → Bool}
    (hlibrary : library.ReadsDirectives readable) (launch : Launcher ω) {call : Call ω}
    {text : String} (h : call.environment.text? Settings.logVariable = some text) :
    let pieces := Log.Filter.pieces text.toList
    let finish := call.runWith library launch
    (finish = brokenOff ↔ ∃ before piece after, pieces = before ++ piece :: after ∧
      (∀ earlier ∈ before, ∃ directive, Log.Directive.ofPiece readable earlier = .ok directive) ∧
      ∃ n ∈ Log.Directive.offsets readable piece, ¬ Text.IsBoundary piece n) ∧
    ((∀ piece ∈ pieces, piece.head?.any Text.isBlank = false ∨ ∀ c ∈ piece, c.utf8Size = 1) →
      finish ≠ brokenOff) ∧
    ((∃ piece ∈ pieces, Log.Directive.ofPiece readable piece = .error .invalid) →
      finish ≠ brokenOff →
      finish = (call.withLog Settings.defaultLogFilter).runWith library launch ∧
      finish = call.runUnder library launch Log.Filter.default.shows ∧
      finish.shownNotices =
        (call.handOver launch).state.notices.filter (·.severity == .warn)) := by
  intro pieces finish
  have hlog : call.settings.logFilter = text := by
    simp [settings, Settings.ofEnvironment, Settings.ofLookup, h]
  have hbroken : finish = brokenOff ↔ library.judge? text = none := by
    rw [← hlog]
    exact runWith_eq_brokenOff_iff
  have hfirst := hbroken.trans (hlibrary.judge?_eq_none_iff.trans
    Log.Filter.ofText_eq_error_iff)
  refine ⟨?_, fun hsafe hfinish => ?_, ?_⟩
  · simpa only [Log.Directive.ofPiece_eq_aborted_iff] using hfirst
  · obtain ⟨before, piece, after, hsplit, -, hpiece⟩ := hfirst.mp hfinish
    have hmem : piece ∈ pieces := by simp [pieces, hsplit]
    exact Log.Directive.ofPiece_ne_aborted (hsafe piece hmem) hpiece
  · rintro ⟨piece, hmem, hpiece⟩ hfinish
    have hjudge := hlibrary.judge?_of_invalid hmem hpiece (mt hbroken.mpr hfinish)
    have hunder : finish = call.runUnder library launch Log.Filter.default.shows :=
      runWith_eq_runUnder (by rwa [hlog])
    refine ⟨?_, hunder, ?_⟩
    · rw [hunder, run_withLog (by decide +kernel) hlibrary.judge?_default]
    · rw [hunder, shownNotices_runUnder]
      simp only [Log.Filter.shows_default, Log.Notice.metadata]

/-- A runner that is killed: the second piece is invalid, so the death is shown and nothing else. -/
theorem run_logSetting_invalid :
    let launch : Launcher Unit := fun world _ => (world, .ok ⟨.signaled ⟨9⟩ false, [], []⟩)
    let call : Call Unit := ⟨⟨[("AUTORUN_COMMAND", Bytes.ofString "sh -c"),
      ("AUTORUN_LOG", Bytes.ofString "debug,[a\x7b\x7d], é=debug")]⟩,
      [[0x70], Bytes.ofString "kill -9 $$"], Sink.unbounded, ()⟩
    call.run launch = (call.withLog "warn").run launch ∧
      (call.run launch).exit = 1 ∧
      (call.run launch).shownNotices = [.terminated ⟨9⟩ false] := by
  intro launch call
  have htext : call.environment.text? Settings.logVariable =
      some "debug,[a\x7b\x7d], é=debug" := by decide +kernel
  obtain ⟨-, -, hfallback⟩ := run_logSetting Library.standard_readsDirectives launch htext
  have hworld : (call.run launch).world ≠ none := by decide +kernel
  obtain ⟨hwarn, -, hshown⟩ := hfallback
    ⟨"[a\x7b\x7d]".toList, by decide +kernel, rfl⟩
    fun hbroken => hworld (congrArg Finish.world hbroken)
  exact ⟨hwarn, by decide +kernel, hshown.trans (by decide +kernel)⟩

/-- A blank of two bytes: the target behind it is cut inside the blank, and the run is broken off,
although the second piece is invalid. -/
theorem run_logSetting_blank :
    let launch : Launcher Unit := fun world _ => (world, .ok ⟨.exited 3, [], []⟩)
    let call : Call Unit := ⟨⟨[("AUTORUN_COMMAND", Bytes.ofString "sh -c"),
      ("AUTORUN_LOG", Bytes.ofString "\u00a0x=debug,[[bogus")]⟩,
      [[0x70], Bytes.ofString "exit 3"], Sink.unbounded, ()⟩
    (∃ piece ∈ Log.Filter.pieces "\u00a0x=debug,[[bogus".toList,
      Log.Directive.ofPiece (fun _ => true) piece = .error .invalid) ∧
    call.run launch = brokenOff ∧
    ((call.withLog "warn").run launch).exit = 3 ∧
    ((call.withLog "warn").run launch).output = Bytes.ofString "exit 3\n" := by
  intro launch call
  exact ⟨⟨"[[bogus".toList, by decide +kernel, rfl⟩,
    runWith_eq_brokenOff_iff.mpr (by decide +kernel), by decide +kernel, by decide +kernel⟩

end Call

end Handoff

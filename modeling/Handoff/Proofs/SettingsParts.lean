import Handoff.Proofs.Segmentation
import Handoff.Proofs.SpacedWords

/-!
# Settings are told by their parts

The settings of a look-up are the words of its command and the text of its filter, and nothing else
of the look-up is kept (`Settings.ofLookup_eq_iff`). The two parts fall back for different reasons:
the command also if it is blank, the filter only if it is not there. The words are never blank
themselves, so the settings come out again when their parts are put back into variables
(`Settings.ofLookup_of_parts`). An environment is the look-up of those of its variables that are
text (`Environment.text?_eq_some_iff`). `Settings.ofLookup_parts` puts this together.
-/

namespace Handoff

theorem Environment.text?_eq_some_iff {env : Environment} {name value : String} :
    env.text? name = some value ↔ env.value? name = some (Bytes.ofString value) := by
  rw [text?]
  constructor
  · intro h
    obtain ⟨cs, hcs, rfl⟩ := Option.map_eq_some_iff.mp h
    obtain ⟨bytes, hbytes, hdecode⟩ := Option.bind_eq_some_iff.mp hcs
    rw [hbytes, Utf8.decode?_eq_some_iff.mp hdecode, Bytes.ofString, String.toList_ofList]
  · intro h
    have hdecode : Utf8.decode? (Bytes.ofString value) = some value.toList :=
      Utf8.decode?_eq_some_iff.mpr rfl
    rw [h, Option.bind_some, hdecode, Option.map_some, String.ofList_toList]

namespace Settings

open Text (Spaced IsGap)

variable {lookup other : String → Option String} {text : String}

theorem logFilter_ofLookup (lookup : String → Option String) :
    (ofLookup lookup).logFilter = (lookup logVariable).getD defaultLogFilter := rfl

theorem runner_eq_iff :
    (ofLookup other).runner = (ofLookup lookup).runner ↔
      commandWords other = commandWords lookup := by
  constructor
  · intro h
    rw [← words_runner_ofLookup, h, words_runner_ofLookup]
  · intro h
    have hother := ofWords?_commandWords other
    rw [h, ofWords?_commandWords] at hother
    exact (Option.some.inj hother).symm

/-- Settings are equal if and only if their commands have the same words and their filters are the
same text, each after its own fallback. -/
theorem ofLookup_eq_iff : ofLookup other = ofLookup lookup ↔
    commandWords other = commandWords lookup ∧
      (other logVariable).getD defaultLogFilter = (lookup logVariable).getD defaultLogFilter := by
  rw [← runner_eq_iff, ← logFilter_ofLookup, ← logFilter_ofLookup]
  constructor
  · intro h
    rw [h]
    exact ⟨rfl, rfl⟩
  · rintro ⟨hrunner, hfilter⟩
    exact congrArg₂ Settings.mk hrunner hfilter

theorem spaced_commandWords (lookup : String → Option String) :
    ∃ text, Spaced (commandWords lookup) text := by
  by_cases h : ∀ text, lookup runnerVariable = some text → IsGap text.toList
  · rw [commandWords_of_unnamed h]
    exact ⟨_, Text.spaced_words _⟩
  · obtain ⟨text, htext⟩ := Classical.not_forall.mp h
    obtain ⟨htext, hgap⟩ := Classical.not_imp.mp htext
    rw [commandWords_of_some htext hgap]
    exact ⟨_, Text.spaced_words _⟩

theorem commandWords_of_spaced {cs : List Char} (hspaced : Spaced (commandWords lookup) cs)
    (h : other runnerVariable = some (String.ofList cs)) :
    commandWords other = commandWords lookup := by
  have hwords : Text.words (String.ofList cs).toList = commandWords lookup := by
    rw [String.toList_ofList, hspaced.words_eq]
  have hgap : ¬ IsGap (String.ofList cs).toList := by
    rw [← Text.words_eq_nil_iff, hwords]
    exact commandWords_ne_nil lookup
  rw [commandWords_of_some h hgap, hwords]

/-- Settings come out again when their parts are put back into variables, however the words are
joined. -/
theorem ofLookup_of_parts {gap : List Char} (hgap : IsGap gap) (hapart : gap ≠ [])
    (hcommand : other runnerVariable = some (String.ofList
      (gap.intercalate ((ofLookup lookup).runner.words.map String.toList))))
    (hfilter : other logVariable = some (ofLookup lookup).logFilter) :
    ofLookup other = ofLookup lookup := by
  obtain ⟨text, htext⟩ := spaced_commandWords lookup
  rw [words_runner_ofLookup] at hcommand
  rw [ofLookup_eq_iff]
  refine ⟨commandWords_of_spaced (.intercalate htext.isWord_of_mem hgap hapart) hcommand, ?_⟩
  rw [hfilter]
  rfl

/-- The settings are the default ones exactly if both parts are, by what is there or by a
fallback. -/
theorem ofLookup_eq_default_iff : ofLookup lookup = default ↔
    (lookup runnerVariable = none ∨ ∃ text, lookup runnerVariable = some text ∧
      (IsGap text.toList ∨ Text.words text.toList = Text.words Runner.defaultText.toList)) ∧
    (lookup logVariable = none ∨ lookup logVariable = some defaultLogFilter) := by
  have hdefault : commandWords (fun _ => none) = Text.words Runner.defaultText.toList :=
    commandWords_of_none rfl
  rw [← ofLookup_none, ofLookup_eq_iff, hdefault]
  refine and_congr ?_ ?_
  · cases htext : lookup runnerVariable with
    | none => simp [commandWords_of_none htext]
    | some text =>
      by_cases hgap : IsGap text.toList
      · simp [commandWords_of_isGap htext hgap, hgap]
      · simp [commandWords_of_some htext hgap, hgap]
  · cases lookup logVariable <;> simp

/-- **Settings and their parts.** The command of a look-up always has a first word, which is the
program, and the others are the leading arguments. Settings come out again when their parts are put
back into variables. Two look-ups give the same settings if and only if their commands have the same
words and their filters are the same text, each after its own fallback; an empty filter is kept.
The default settings are those of a command that is not there, blank, or made of the default words,
and of a filter that is not there or is the default one. The settings of an environment are those of
the look-up in which a variable counts if its value is the encoding of a text. -/
theorem ofLookup_parts (lookup : String → Option String) :
    let settings := ofLookup lookup
    (∃ program args, commandWords lookup = program :: args ∧
      settings.runner = ⟨String.ofList program, args.map String.ofList⟩) ∧
    (∀ (gap : List Char) (again : String → Option String), IsGap gap → gap ≠ [] →
      again runnerVariable = some (String.ofList
        (gap.intercalate (settings.runner.words.map String.toList))) →
      again logVariable = some settings.logFilter → ofLookup again = settings) ∧
    (∀ other : String → Option String, ofLookup other = settings ↔
      commandWords other = commandWords lookup ∧
      (other logVariable).getD defaultLogFilter = (lookup logVariable).getD defaultLogFilter) ∧
    (lookup logVariable = some "" → settings.logFilter = "") ∧
    (settings = default ↔
      (lookup runnerVariable = none ∨ ∃ text, lookup runnerVariable = some text ∧
        (IsGap text.toList ∨ Text.words text.toList = Text.words Runner.defaultText.toList)) ∧
      (lookup logVariable = none ∨ lookup logVariable = some defaultLogFilter)) ∧
    ∀ env : Environment, ofEnvironment env = ofLookup env.text? ∧
      ∀ name value, env.text? name = some value ↔
        env.value? name = some (Bytes.ofString value) := by
  intro settings
  refine ⟨?_, fun gap again hgap hapart => ofLookup_of_parts hgap hapart, fun other =>
    ofLookup_eq_iff, fun hempty => ?_, ofLookup_eq_default_iff, fun env =>
    ⟨rfl, fun name value => Environment.text?_eq_some_iff⟩⟩
  · obtain ⟨program, args, hwords⟩ := List.exists_cons_of_ne_nil (commandWords_ne_nil lookup)
    have hrunner := ofWords?_commandWords lookup
    rw [hwords] at hrunner
    exact ⟨program, args, hwords, (Option.some.inj hrunner).symm⟩
  · rw [show settings.logFilter = _ from logFilter_ofLookup lookup, hempty]
    rfl

/-- A command of look-alikes and an empty filter, put back with two blanks between the words. -/
theorem ofLookup_parts_joined :
    let lookup (name : String) :=
      [(runnerVariable, "\t\ufeffa b\u200b\n"), (logVariable, "")].lookup name
    let again (name : String) :=
      [(logVariable, ""), (runnerVariable, "\ufeffa\u3000\rb\u200b")].lookup name
    ofLookup again = ofLookup lookup ∧ (ofLookup lookup).logFilter = "" ∧
    ofLookup lookup ≠ default := by
  intro lookup again
  obtain ⟨-, hjoined, -, hempty, hdefault, -⟩ := ofLookup_parts lookup
  refine ⟨hjoined ['\u3000', '\r'] again (by decide +kernel) (by decide) (by decide +kernel) rfl,
    hempty rfl, fun h => ?_⟩
  obtain ⟨-, hnone | hsome⟩ := hdefault.mp h
  · cases hnone
  · exact absurd hsome (by decide)

end Settings

end Handoff

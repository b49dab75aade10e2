import Handoff.Settings

/-!
# Words and the white space around them

`Text.Spaced words text` says what a text of some words looks like: white space between any two of
them, and perhaps in front and behind. A text has the words that it was put together from, and no
others (`Text.words_eq_iff`). Both directions come from one equation, that a text may be cut at any
blank (`Text.words_append_blank`). `Settings.ofLookup_spaced` says it of the runner that a look-up
gives.
-/

namespace Handoff

namespace Text

/-- A text that may be a word: not empty, and without white space. -/
def IsWord (cs : List Char) : Prop := cs ≠ [] ∧ ∀ c ∈ cs, isBlank c = false

/-- A text of white space, or of nothing at all. -/
def IsGap (cs : List Char) : Prop := ∀ c ∈ cs, isBlank c = true

instance (cs : List Char) : Decidable (IsGap cs) := List.decidableBAll _ cs

instance (cs : List Char) : Decidable (IsWord cs) :=
  @instDecidableAnd _ _ inferInstance (List.decidableBAll _ cs)

/-- A text that consists of words, with white space between any two of them and perhaps around
them. -/
inductive Spaced : List (List Char) → List Char → Prop
  | nil {gap : List Char} (hgap : IsGap gap) : Spaced [] gap
  | single {front word back : List Char} (hfront : IsGap front) (hword : IsWord word)
      (hback : IsGap back) : Spaced [word] (front ++ word ++ back)
  | cons {front word gap next rest : List Char} {others : List (List Char)} (hfront : IsGap front)
      (hword : IsWord word) (hgap : IsGap gap) (hapart : gap ≠ [])
      (hrest : Spaced (next :: others) rest) :
      Spaced (word :: next :: others) (front ++ word ++ gap ++ rest)

variable {c : Char} {front gap word text xs ys : List Char} {ws : List (List Char)}

theorem isGap_nil : IsGap [] := List.forall_mem_nil _

theorem IsGap.cons (hc : isBlank c = true) (hgap : IsGap gap) : IsGap (c :: gap) :=
  List.forall_mem_cons.mpr ⟨hc, hgap⟩

theorem isGap_iff_filter_eq_nil : IsGap text ↔ text.filter (!isBlank ·) = [] := by
  simp [IsGap, List.filter_eq_nil_iff]

/-! ### Cutting at a blank -/

theorem wordsFrom_append_blank (hc : isBlank c = true) (begun xs ys : List Char) :
    wordsFrom begun (xs ++ c :: ys) = wordsFrom begun xs ++ words ys := by
  induction xs generalizing begun with
  | nil => cases begun <;> simp [wordsFrom, hc, words]
  | cons x xs ih =>
    cases hx : isBlank x with
    | true => cases begun <;> simp [wordsFrom, hx, ih]
    | false => simp [wordsFrom, hx, ih]

/-- A text has the words in front of a blank, and those behind it. -/
theorem words_append_blank (hc : isBlank c = true) (xs ys : List Char) :
    words (xs ++ c :: ys) = words xs ++ words ys :=
  wordsFrom_append_blank hc [] xs ys

theorem words_gap_append (hgap : IsGap gap) (ys : List Char) : words (gap ++ ys) = words ys := by
  induction gap with
  | nil => rfl
  | cons c gap ih =>
    obtain ⟨hc, hgap⟩ := List.forall_mem_cons.mp hgap
    have hcut := words_append_blank hc [] (gap ++ ys)
    rw [List.nil_append, words_nil, List.nil_append, ih hgap] at hcut
    exact hcut

theorem words_append_gap (hgap : IsGap gap) (hapart : gap ≠ []) (xs ys : List Char) :
    words (xs ++ gap ++ ys) = words xs ++ words ys := by
  obtain ⟨c, gap, rfl⟩ := List.exists_cons_of_ne_nil hapart
  obtain ⟨hc, hgap⟩ := List.forall_mem_cons.mp hgap
  rw [List.append_assoc, List.cons_append, words_append_blank hc, words_gap_append hgap]

theorem words_of_isGap (hgap : IsGap gap) : words gap = [] := by
  simpa using words_gap_append hgap []

theorem words_append_of_isGap (hgap : IsGap gap) (xs : List Char) :
    words (xs ++ gap) = words xs := by
  by_cases hapart : gap = []
  · rw [hapart, List.append_nil]
  · simpa using words_append_gap hgap hapart xs []

theorem words_of_isWord (hword : IsWord word) : words word = [word] := by
  have hbegun := wordsFrom_append_nonBlank [] word [] hword.2
  rw [List.append_nil, List.nil_append] at hbegun
  rw [words, hbegun, wordsFrom, if_neg]
  simpa using hword.1

/-! ### The words that a text was put together from -/

namespace Spaced

theorem words_eq (h : Spaced ws text) : words text = ws := by
  induction h with
  | nil hgap => exact words_of_isGap hgap
  | single hfront hword hback =>
    rw [words_append_of_isGap hback, words_gap_append hfront, words_of_isWord hword]
  | cons hfront hword hgap hapart _ ih =>
    rw [words_append_gap hgap hapart, words_gap_append hfront, words_of_isWord hword, ih]
    rfl

theorem isGap (h : Spaced [] text) : IsGap text := by
  cases h with
  | nil hgap => exact hgap

theorem isWord_of_mem (h : Spaced ws text) : ∀ word ∈ ws, IsWord word := by
  induction h with
  | nil => exact List.forall_mem_nil _
  | single _ hword => exact List.forall_mem_singleton.mpr hword
  | cons _ hword _ _ _ ih => exact List.forall_mem_cons.mpr ⟨hword, ih⟩

theorem blank (hc : isBlank c = true) (h : Spaced ws text) : Spaced ws (c :: text) := by
  cases h with
  | nil hgap => exact .nil (hgap.cons hc)
  | single hfront hword hback => exact .single (hfront.cons hc) hword hback
  | cons hfront hword hgap hapart hrest => exact .cons (hfront.cons hc) hword hgap hapart hrest

/-- A word goes in front if a blank parts it from the text. -/
theorem push (hword : IsWord word) (hc : isBlank c = true) (h : Spaced ws text) :
    Spaced (word :: ws) (word ++ c :: text) := by
  cases ws with
  | nil => exact .single isGap_nil hword (h.isGap.cons hc)
  | cons next others =>
    rw [List.append_cons]
    exact .cons isGap_nil hword (isGap_nil.cons hc) (List.cons_ne_nil c []) h

theorem intercalate (hws : ∀ word ∈ ws, IsWord word) (hgap : IsGap gap) (hapart : gap ≠ []) :
    Spaced ws (gap.intercalate ws) := by
  induction ws with
  | nil => exact .nil isGap_nil
  | cons word ws ih =>
    obtain ⟨hword, hws⟩ := List.forall_mem_cons.mp hws
    cases ws with
    | nil => simpa using Spaced.single isGap_nil hword isGap_nil
    | cons next others =>
      rw [List.intercalate_cons_cons]
      simpa using Spaced.cons isGap_nil hword hgap hapart (ih hws)

/-- The words hold all characters that are not blank, in their order. -/
theorem flatten_eq (h : Spaced ws text) : ws.flatten = text.filter (!isBlank ·) := by
  have hself {word : List Char} (hword : IsWord word) : word.filter (!isBlank ·) = word :=
    List.filter_eq_self.mpr fun c hc => by simp [hword.2 c hc]
  induction h with
  | nil hgap => exact (isGap_iff_filter_eq_nil.mp hgap).symm
  | single hfront hword hback =>
    simp only [List.filter_append, isGap_iff_filter_eq_nil.mp hfront, hself hword,
      isGap_iff_filter_eq_nil.mp hback, List.flatten_singleton, List.nil_append, List.append_nil]
  | cons hfront hword hgap _ _ ih =>
    simp only [List.filter_append, isGap_iff_filter_eq_nil.mp hfront, hself hword,
      isGap_iff_filter_eq_nil.mp hgap, ← ih, List.nil_append, List.append_nil]
    rfl

end Spaced

theorem spaced_wordsFrom (begun text : List Char) (hbegun : ∀ c ∈ begun, isBlank c = false) :
    Spaced (wordsFrom begun text) (begun ++ text) := by
  -- `begun` is the part of a word that stands in front of the text that is left.
  induction text generalizing begun with
  | nil =>
    cases begun with
    | nil => exact .nil isGap_nil
    | cons d begun =>
      have hword : IsWord (d :: begun) := ⟨List.cons_ne_nil d begun, hbegun⟩
      simpa [wordsFrom] using Spaced.single isGap_nil hword isGap_nil
  | cons c text ih =>
    cases hc : isBlank c with
    | true =>
      have hrest : Spaced (wordsFrom [] text) text := ih [] (List.forall_mem_nil _)
      cases begun with
      | nil => simpa [wordsFrom, hc] using hrest.blank hc
      | cons d begun =>
        have hword : IsWord (d :: begun) := ⟨List.cons_ne_nil d begun, hbegun⟩
        simpa [wordsFrom, hc] using hrest.push hword hc
    | false =>
      have hlonger : ∀ d ∈ begun ++ [c], isBlank d = false := by
        intro d hd
        obtain hd | hd := List.mem_append.mp hd
        · exact hbegun d hd
        · rw [List.mem_singleton.mp hd, hc]
      rw [List.append_cons]
      simpa [wordsFrom, hc] using ih (begun ++ [c]) hlonger

theorem spaced_words (text : List Char) : Spaced (words text) text :=
  spaced_wordsFrom [] text (List.forall_mem_nil _)

/-- **The words of a text are those that it was put together from.** -/
theorem words_eq_iff : words text = ws ↔ Spaced ws text :=
  ⟨fun h => h ▸ spaced_words text, Spaced.words_eq⟩

theorem words_eq_nil_iff : words text = [] ↔ IsGap text :=
  ⟨fun h => (words_eq_iff.mp h).isGap, words_of_isGap⟩

end Text

namespace Runner

variable {ws : List (List Char)} {runner : Runner}

theorem words_of_ofWords? (h : ofWords? ws = some runner) :
    runner.words.map String.toList = ws := by
  cases ws with
  | nil => cases h
  | cons program args =>
    cases h
    simp [words, Function.comp_def]

end Runner

namespace Settings

open Text (Spaced IsWord IsGap isBlank)

/-- The command of a look-up as a list of words, with the default command in the place of a list
without words. -/
def commandWords (lookup : String → Option String) : List (List Char) :=
  (((lookup runnerVariable).map fun text => Text.words text.toList).filter (· ≠ [])).getD
    (Text.words Runner.defaultText.toList)

variable {lookup : String → Option String} {text : String}

theorem commandWords_of_some (h : lookup runnerVariable = some text) (hgap : ¬ IsGap text.toList) :
    commandWords lookup = Text.words text.toList := by
  have hwords : Text.words text.toList ≠ [] := mt Text.words_eq_nil_iff.mp hgap
  simp [commandWords, h, Option.filter, hwords]

theorem commandWords_of_none (h : lookup runnerVariable = none) :
    commandWords lookup = Text.words Runner.defaultText.toList := by
  simp [commandWords, h]

theorem commandWords_of_isGap (h : lookup runnerVariable = some text) (hgap : IsGap text.toList) :
    commandWords lookup = Text.words Runner.defaultText.toList := by
  simp [commandWords, h, Option.filter, Text.words_of_isGap hgap]

theorem commandWords_of_unnamed
    (h : ∀ text, lookup runnerVariable = some text → IsGap text.toList) :
    commandWords lookup = Text.words Runner.defaultText.toList := by
  cases htext : lookup runnerVariable with
  | none => exact commandWords_of_none htext
  | some text => exact commandWords_of_isGap htext (h text htext)

theorem runner_ofLookup (lookup : String → Option String) : (ofLookup lookup).runner =
    ((lookup runnerVariable).bind Runner.ofText?).getD .default := rfl

/-- The runner of a look-up is read off the words of its command. -/
theorem ofWords?_commandWords (lookup : String → Option String) :
    Runner.ofWords? (commandWords lookup) = some (ofLookup lookup).runner := by
  cases htext : lookup runnerVariable with
  | none =>
    rw [commandWords_of_none htext, runner_ofLookup, htext]
    exact Runner.ofText?_defaultText
  | some text =>
    by_cases hgap : IsGap text.toList
    · have hnone : Runner.ofText? text = none :=
        Runner.ofText?_eq_none_iff.mpr (Text.words_of_isGap hgap)
      rw [commandWords_of_isGap htext hgap, runner_ofLookup, htext, Option.bind_some, hnone]
      exact Runner.ofText?_defaultText
    · obtain ⟨runner, hrunner⟩ := Option.ne_none_iff_exists'.mp
        (mt (Runner.ofText?_eq_none_iff.trans Text.words_eq_nil_iff).mp hgap)
      rw [commandWords_of_some htext hgap, runner_ofLookup, htext, Option.bind_some, hrunner]
      exact hrunner

theorem commandWords_ne_nil (lookup : String → Option String) : commandWords lookup ≠ [] := by
  intro hnil
  have hrunner := ofWords?_commandWords lookup
  rw [hnil] at hrunner
  cases hrunner

theorem words_runner_ofLookup (lookup : String → Option String) :
    (ofLookup lookup).runner.words.map String.toList = commandWords lookup :=
  Runner.words_of_ofWords? (ofWords?_commandWords lookup)

/-- **The runner that a look-up names.** However its words are spaced out, the first is the program
and the others are the leading arguments. Any value that is not blank consists of the words of the
runner, with white space between them and perhaps around them, so they hold all its other characters
in their order. A blank value, and none at all, stand for the default command. No other variable
matters. -/
theorem ofLookup_spaced (lookup : String → Option String) :
    let runner := (ofLookup lookup).runner
    (∀ (program : List Char) (args : List (List Char)) (text : List Char),
      Spaced (program :: args) text → lookup runnerVariable = some (String.ofList text) →
      runner.program = String.ofList program ∧ runner.leadingArgs = args.map String.ofList) ∧
    (∀ text : String, lookup runnerVariable = some text → ¬ IsGap text.toList →
      Spaced (runner.words.map String.toList) text.toList ∧
      (∀ word ∈ runner.words, IsWord word.toList) ∧
      (runner.words.map String.toList).flatten = text.toList.filter (!isBlank ·)) ∧
    ((∀ text : String, lookup runnerVariable = some text → IsGap text.toList) →
      runner.words.map String.toList = Text.words Runner.defaultText.toList ∧
      runner = .default) := by
  intro runner
  have hrunner : Runner.ofWords? (commandWords lookup) = some runner := ofWords?_commandWords lookup
  refine ⟨fun program args text hspaced htext => ?_, fun text htext hgap => ?_, fun hunnamed => ?_⟩
  · have hwords : Text.words (String.ofList text).toList = program :: args := by
      rw [String.toList_ofList, hspaced.words_eq]
    have hgap : ¬ IsGap (String.ofList text).toList := by
      rw [← Text.words_eq_nil_iff, hwords]
      exact List.cons_ne_nil program args
    rw [commandWords_of_some htext hgap, hwords] at hrunner
    have hparts : ⟨String.ofList program, args.map String.ofList⟩ = runner :=
      Option.some.inj hrunner
    exact ⟨congrArg Runner.program hparts.symm, congrArg Runner.leadingArgs hparts.symm⟩
  · have hspaced : Spaced (runner.words.map String.toList) text.toList := by
      rw [Runner.words_of_ofWords? hrunner, commandWords_of_some htext hgap]
      exact Text.spaced_words text.toList
    exact ⟨hspaced, List.forall_mem_map.mp hspaced.isWord_of_mem, hspaced.flatten_eq⟩
  · rw [commandWords_of_unnamed hunnamed] at hrunner
    exact ⟨Runner.words_of_ofWords? hrunner,
      Option.some.inj (hrunner.symm.trans Runner.ofText?_defaultText)⟩

/-- Blanks of one, two and three bytes; a space of no width and a separator of files are none. -/
theorem ofLookup_spaced_lookalikes :
    let lookup (name : String) := [(runnerVariable, "\u2003a\u200b\t\u00a0\x1cb\n"),
      ("AUTORUN_LOG", "\u3000")].lookup name
    let blank (name : String) := [("CARGO", "c"), (runnerVariable, "\u3000\r")].lookup name
    Spaced ["a\u200b".toList, "\x1cb".toList] "\u2003a\u200b\t\u00a0\x1cb\n".toList ∧
    (ofLookup lookup).runner.program = "a\u200b" ∧
    (ofLookup lookup).runner.leadingArgs = ["\x1cb"] ∧
    ((ofLookup lookup).runner.words.map String.toList).flatten = "a\u200b\x1cb".toList ∧
    (ofLookup blank).runner = .default := by
  intro lookup blank
  have hlast : Spaced ["\x1cb".toList] ([] ++ "\x1cb".toList ++ ['\n']) :=
    .single (by decide) (by decide +kernel) (by decide +kernel)
  have hspaced : Spaced ["a\u200b".toList, "\x1cb".toList]
      (['\u2003'] ++ "a\u200b".toList ++ ['\t', '\u00a0'] ++
        ([] ++ "\x1cb".toList ++ ['\n'])) :=
    .cons (by decide +kernel) (by decide +kernel) (by decide +kernel) (by decide) hlast
  obtain ⟨hnamed, hparts, -⟩ := ofLookup_spaced lookup
  obtain ⟨-, -, hunnamed⟩ := ofLookup_spaced blank
  obtain ⟨hprogram, hargs⟩ := hnamed _ _ _ hspaced rfl
  obtain ⟨-, -, hflatten⟩ := hparts _ rfl (by decide +kernel)
  refine ⟨hspaced, hprogram, hargs, hflatten.trans (by decide +kernel), (hunnamed ?_).2⟩
  intro text htext
  obtain rfl : "\u3000\r" = text := Option.some.inj htext
  decide +kernel

end Settings

end Handoff

import Handoff.Text.CodeRanges

/-!
White space, and the words that it separates.

`Text.words` cuts a text into its maximal runs of characters that are no white space; `Text.trim`
takes white space off both ends only.
-/

namespace Handoff.Text

/-- The code points with the property `White_Space`. -/
def whiteSpaceRanges : CodeRanges :=
  [(0x9, 0xd), (0x20, 0x20), (0x85, 0x85), (0xa0, 0xa0), (0x1680, 0x1680), (0x2000, 0x200a),
   (0x2028, 0x2029), (0x202f, 0x202f), (0x205f, 0x205f), (0x3000, 0x3000)]

def isBlank (c : Char) : Bool := whiteSpaceRanges.contains c

/-- The words of a text, read with `word` already begun; an empty `word` is none. -/
def wordsFrom (word : List Char) : List Char → List (List Char)
  | [] => if word.isEmpty then [] else [word]
  | c :: cs =>
    if isBlank c then
      if word.isEmpty then wordsFrom [] cs else word :: wordsFrom [] cs
    else wordsFrom (word ++ [c]) cs

/-- The maximal runs of characters that are no white space. -/
def words (cs : List Char) : List (List Char) := wordsFrom [] cs

def trimStart (cs : List Char) : List Char := cs.dropWhile isBlank

/-- Drops the white space at the end: a blank goes if nothing but blanks follows it. -/
def trimEnd : List Char → List Char
  | [] => []
  | c :: cs =>
    match trimEnd cs with
    | [] => if isBlank c then [] else [c]
    | rest => c :: rest

/-- A text without the white space at its two ends. -/
def trim (cs : List Char) : List Char := trimEnd (trimStart cs)

@[simp] theorem words_nil : words [] = [] := rfl

theorem wordsFrom_append_nonBlank (word cs : List Char) (rest : List Char)
    (h : ∀ c ∈ cs, isBlank c = false) :
    wordsFrom word (cs ++ rest) = wordsFrom (word ++ cs) rest := by
  induction cs generalizing word with
  | nil => simp
  | cons c cs ih =>
    have hc : isBlank c = false := h c (by simp)
    rw [List.cons_append, wordsFrom, hc]
    simpa using ih (word ++ [c]) fun d hd => h d (by simp [hd])

end Handoff.Text

import Handoff.Proofs.QuotedReading
import Handoff.Settings

/-!
# Settings are told by their descriptions

A description is made of fixed texts, of quoted strings and of lists of quoted strings. A quoted
string tells where it ends, whatever stands behind it (`Quoted.delimited_stringWith`), so a list of
them does (`Runner.delimited_listWith`), and a text inside a string that looks like the end of a
string, of a list or of a field is not taken for it. It follows that descriptions are equal only if
what they describe is (`Runner.describeWith_inj`, `Settings.describeWith_inj`).

Which characters are shown and which are escaped has no part in this: everything is said of
`Quoted.stringWith`, which leaves that open, and `Quoted.string` is the case of `Quoted.isShown`.
-/

namespace Handoff

/-- What is written for a value tells where it ends: nothing behind it can be taken for a part of
it. -/
def Delimited {α : Type} (write : α → String) : Prop :=
  ∀ ⦃a b : α⦄ ⦃rest other : List Char⦄,
    (write a).toList ++ rest = (write b).toList ++ other → a = b ∧ rest = other

theorem Delimited.inj {α : Type} {write : α → String} (h : Delimited write) {a b : α} :
    write a = write b ↔ a = b := by
  constructor
  · intro hsame
    have happend : (write a).toList ++ [] = (write b).toList ++ [] := by rw [hsame]
    exact (h happend).1
  · rintro rfl
    rfl

/-! ### Quoted strings -/

theorem Bytes.ofString_inj {s t : String} : ofString s = ofString t ↔ s = t := by
  constructor
  · intro h
    have hdecoded := congrArg Utf8.decodeLossy h
    rw [ofString, ofString, Utf8.decodeLossy_ofChars, Utf8.decodeLossy_ofChars] at hdecoded
    exact String.toList_inj.mp hdecoded
  · rintro rfl
    rfl

namespace Quoted

/-- One character between the quotes, where `shown` tells which characters are shown as they are.
Those with a short escape are escaped all the same. -/
def charWith (shown : Char → Bool) (c : Char) : List Char :=
  if c ∈ ['"', '\\', '\t', '\n', '\r', '\x00'] then Style.plain.char c
  else if shown c then [c] else braced c

/-- A string in quotes, where `shown` tells which characters are shown as they are. -/
def stringWith (shown : Char → Bool) (s : String) : String :=
  String.ofList ('"' :: s.toList.flatMap (charWith shown) ++ ['"'])

theorem charWith_isShown (c : Char) : charWith isShown c = Style.plain.char c := by
  rw [charWith]
  split_ifs with hshort hshown
  · rfl
  · simp only [List.mem_cons, List.not_mem_nil, or_false, not_or] at hshort
    rw [isShown] at hshown
    simp [Style.char, Style.plain, Style.plainWith, hshort, hshown]
  · simp only [List.mem_cons, List.not_mem_nil, or_false, not_or] at hshort
    rw [isShown] at hshown
    simp [Style.char, Style.plain, Style.plainWith, Style.controlEscape, hshort, hshown]

theorem stringWith_isShown : stringWith isShown = string := by
  funext s
  rw [stringWith, funext charWith_isShown]
  rfl

theorem toList_stringWith (shown : Char → Bool) (s : String) :
    (stringWith shown s).toList = '"' :: s.toList.flatMap (charWith shown) ++ ['"'] :=
  String.toList_ofList

theorem read_charWith (shown : Char → Bool) (c : Char) (rest : List Char) :
    read .between (charWith shown c ++ rest) =
      found (String.utf8EncodeChar c) (read .between rest) := by
  rw [charWith]
  split_ifs with hshort
  · exact read_char Style.plain c rest
  · have hquote : c ≠ '"' := by
      rintro rfl
      exact hshort (by decide)
    have hbackslash : c ≠ '\\' := by
      rintro rfl
      exact hshort (by decide)
    exact read_shown hquote hbackslash rest
  · exact read_braced c rest

theorem readText_stringWith (shown : Char → Bool) (s : String) (rest : List Char) :
    readText ((stringWith shown s).toList ++ rest) = some (Bytes.ofString s, rest) := by
  rw [toList_stringWith]
  exact readText_quoted (read_flatMap (read_charWith shown) s.toList) rest

/-- **A quoted string tells where it ends**, whatever characters it holds and whichever of them are
shown. -/
theorem delimited_stringWith (shown : Char → Bool) : Delimited (stringWith shown) := by
  intro a b rest other h
  have hread := readText_stringWith shown a rest
  rw [h, readText_stringWith shown b other, Option.some.injEq, Prod.mk.injEq] at hread
  obtain ⟨hbytes, hrest⟩ := hread
  exact ⟨(Bytes.ofString_inj.mp hbytes).symm, hrest.symm⟩

theorem head?_stringWith (shown : Char → Bool) (s : String) :
    (stringWith shown s).toList.head? = some '"' := by
  rw [toList_stringWith]
  rfl

end Quoted

/-! ### Lists and records of quoted strings -/

namespace Runner

variable {quote : String → String} {runner other : Runner}

/-- Strings in brackets, each quoted in a given way. -/
def listWith (quote : String → String) (items : List String) : String :=
  "[" ++ ", ".intercalate (items.map quote) ++ "]"

/-- The two parts of a runner, each quoted in a given way. -/
def describeWith (quote : String → String) (runner : Runner) : String :=
  "CommandFacility \x7b program: " ++ quote runner.program ++ ", leading_args: " ++
    listWith quote runner.leadingArgs ++ " \x7d"

theorem describeWith_string (runner : Runner) :
    runner.describeWith Quoted.string = runner.describe := rfl

theorem toList_listWith (quote : String → String) (items : List String) :
    (listWith quote items).toList =
      '[' :: [',', ' '].intercalate (items.map fun s => (quote s).toList) ++ [']'] := by
  simp [listWith, String.toList_intercalate, Function.comp_def]

/-- Two lists that are not empty, up to their closing brackets: after an item comes a comma or the
bracket, so neither list can end before the other. -/
theorem items_append_inj (hquote : Delimited quote) {x y : String} {xs ys : List String}
    {rest other : List Char}
    (h : [',', ' '].intercalate ((x :: xs).map fun s => (quote s).toList) ++ ']' :: rest =
      [',', ' '].intercalate ((y :: ys).map fun s => (quote s).toList) ++ ']' :: other) :
    x :: xs = y :: ys ∧ rest = other := by
  induction xs generalizing x y ys with
  | nil =>
    cases ys with
    | nil =>
      simp only [List.map_cons, List.map_nil, List.intercalate_singleton] at h
      obtain ⟨rfl, htail⟩ := hquote h
      exact ⟨rfl, (List.cons.inj htail).2⟩
    | cons y' ys =>
      simp only [List.map_cons, List.map_nil, List.intercalate_singleton,
        List.intercalate_cons_cons, List.append_assoc] at h
      obtain ⟨-, htail⟩ := hquote h
      exact absurd (List.cons.inj htail).1 (by decide)
  | cons x' xs ih =>
    cases ys with
    | nil =>
      simp only [List.map_cons, List.map_nil, List.intercalate_singleton,
        List.intercalate_cons_cons, List.append_assoc] at h
      obtain ⟨-, htail⟩ := hquote h
      exact absurd (List.cons.inj htail).1 (by decide)
    | cons y' ys =>
      simp only [List.map_cons, List.intercalate_cons_cons, List.append_assoc] at h
      obtain ⟨rfl, htail⟩ := hquote h
      rw [List.append_cancel_left_eq] at htail
      obtain ⟨hitems, hrest⟩ := ih htail
      exact ⟨congrArg (x :: ·) hitems, hrest⟩

theorem head?_items (hopen : ∀ s, (quote s).toList.head? = some '"') (y : String)
    (ys : List String) (rest : List Char) :
    ([',', ' '].intercalate ((y :: ys).map fun s => (quote s).toList) ++ rest).head? =
      some '"' := by
  cases ys with
  | nil => simp [List.head?_append, hopen]
  | cons y' ys => simp [List.intercalate_cons_cons, List.head?_append, hopen]

/-- **A list of quoted strings tells where it ends.** -/
theorem delimited_listWith (hquote : Delimited quote)
    (hopen : ∀ s, (quote s).toList.head? = some '"') : Delimited (listWith quote) := by
  intro xs ys rest other h
  rw [toList_listWith, toList_listWith, List.append_assoc, List.append_assoc] at h
  obtain ⟨-, h⟩ := List.cons.inj h
  -- An empty list closes at once, where any other has the quote of its first item.
  have hclose (zs : List Char) : ([']'] ++ zs).head? ≠ some '"' := by simp
  cases xs with
  | nil =>
    cases ys with
    | nil => exact ⟨rfl, (List.cons.inj h).2⟩
    | cons y ys =>
      exact absurd ((congrArg List.head? h).trans (head?_items hopen y ys _)) (hclose _)
  | cons x xs =>
    cases ys with
    | nil =>
      exact absurd ((congrArg List.head? h).symm.trans (head?_items hopen x xs _)) (hclose _)
    | cons y ys => exact items_append_inj hquote h

theorem describeWith_inj (hquote : Delimited quote) (hlist : Delimited (listWith quote)) :
    runner.describeWith quote = other.describeWith quote ↔
      runner.program = other.program ∧ runner.leadingArgs = other.leadingArgs := by
  constructor
  · intro h
    have h := congrArg String.toList h
    unfold describeWith at h
    simp only [String.toList_append, List.append_assoc, List.append_cancel_left_eq] at h
    obtain ⟨hprogram, h⟩ := hquote h
    rw [List.append_cancel_left_eq] at h
    exact ⟨hprogram, (hlist h).1⟩
  · rintro ⟨hprogram, hargs⟩
    unfold describeWith
    rw [hprogram, hargs]

end Runner

namespace Settings

variable {quote : String → String} {settings other : Settings}

/-- The words of the runner and the filter, each quoted in a given way. -/
def describeWith (quote : String → String) (settings : Settings) : String :=
  "Config \x7b command: " ++ Runner.listWith quote settings.runner.words ++ ", log_filter: " ++
    quote settings.logFilter ++ " \x7d"

theorem describeWith_string (settings : Settings) :
    settings.describeWith Quoted.string = settings.describe := rfl

theorem describeWith_inj (hquote : Delimited quote) (hlist : Delimited (Runner.listWith quote)) :
    settings.describeWith quote = other.describeWith quote ↔ settings = other := by
  constructor
  · intro h
    have h := congrArg String.toList h
    unfold describeWith at h
    simp only [String.toList_append, List.append_assoc, List.append_cancel_left_eq] at h
    obtain ⟨hwords, h⟩ := hlist h
    rw [List.append_cancel_left_eq] at h
    obtain ⟨hfilter, -⟩ := hquote h
    obtain ⟨hprogram, hargs⟩ := List.cons.inj hwords
    exact congrArg₂ Settings.mk (congrArg₂ Runner.mk hprogram hargs) hfilter
  · rintro rfl
    rfl

/-- **Descriptions are faithful.** The settings of two look-ups have the same description if and
only if they are the same, and their runners if and only if they have the same program and the same
leading arguments, whatever the strings hold. This is so with the characters that are shown as they
are, `Quoted.isShown`, and with any other choice of them. -/
theorem describe_faithful (lookup other : String → Option String) :
    let settings := ofLookup lookup
    let twin := ofLookup other
    (settings.describe = twin.describe ↔ settings = twin) ∧
    (settings.runner.describe = twin.runner.describe ↔
      settings.runner.program = twin.runner.program ∧
        settings.runner.leadingArgs = twin.runner.leadingArgs) ∧
    settings.describe = settings.describeWith (Quoted.stringWith Quoted.isShown) ∧
    settings.runner.describe = settings.runner.describeWith (Quoted.stringWith Quoted.isShown) ∧
    ∀ shown : Char → Bool,
      (settings.describeWith (Quoted.stringWith shown) =
        twin.describeWith (Quoted.stringWith shown) ↔ settings = twin) ∧
      (settings.runner.describeWith (Quoted.stringWith shown) =
        twin.runner.describeWith (Quoted.stringWith shown) ↔
          settings.runner.program = twin.runner.program ∧
            settings.runner.leadingArgs = twin.runner.leadingArgs) := by
  intro settings twin
  have hquote (shown : Char → Bool) : Delimited (Quoted.stringWith shown) :=
    Quoted.delimited_stringWith shown
  have hlist (shown : Char → Bool) : Delimited (Runner.listWith (Quoted.stringWith shown)) :=
    Runner.delimited_listWith (hquote shown) (Quoted.head?_stringWith shown)
  have hshown := Quoted.stringWith_isShown
  refine ⟨?_, ?_, ?_, ?_, fun shown => ⟨describeWith_inj (hquote shown) (hlist shown),
    Runner.describeWith_inj (hquote shown) (hlist shown)⟩⟩
  · rw [← describeWith_string, ← describeWith_string, ← hshown]
    exact describeWith_inj (hquote _) (hlist _)
  · rw [← Runner.describeWith_string, ← Runner.describeWith_string, ← hshown]
    exact Runner.describeWith_inj (hquote _) (hlist _)
  · rw [hshown, describeWith_string]
  · rw [hshown, Runner.describeWith_string]

end Settings

end Handoff

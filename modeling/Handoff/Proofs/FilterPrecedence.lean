import Handoff.Proofs.FilterFallback
import Mathlib.Data.Char
import Mathlib.Data.List.Induction
import Mathlib.Data.List.Lex
import Mathlib.Data.Prod.Lex

/-!
# Which directives matter

An event is judged by one directive, and `Filter.Governs` says which: it is the last of those with
its own target and field, and no other directive about the event is of a higher rank
(`Filter.governing?_eq_some_iff`). So two filters say the same of an event if they have the same
last directive for each field and each target that the target of the event begins with
(`Filter.governing?_congr`). The order of directives, and directives that are left out, matter only
as far as they change that.
-/

namespace Handoff

namespace Text

variable {front cs : List Char}

theorem byteLength_eq_zero_iff : byteLength cs = 0 ↔ cs = [] := by
  cases cs with
  | nil => simp
  | cons c cs =>
    have hpos := c.utf8Size_pos
    simp only [byteLength_cons, List.cons_ne_nil, iff_false]
    omega

theorem eq_of_isPrefix_of_byteLength (h : front <+: cs)
    (hlength : byteLength front = byteLength cs) :
    front = cs := by
  obtain ⟨back, rfl⟩ := h
  rw [byteLength_append, Nat.left_eq_add, byteLength_eq_zero_iff] at hlength
  rw [hlength, List.append_nil]

end Text

namespace Log

/-- What directives are told apart by: the start of the target, and the fields. -/
abbrev Key := Option (List Char) × List (List Char)

variable {event other : Metadata} {own : Key} {ds es xs ys : List Directive} {d e : Directive}

namespace Directive

def key (d : Directive) : Key := (d.target, d.fieldNames)

/-- Whether a directive is about events, and has a given key. -/
def isFor (own : Key) (d : Directive) : Bool := d.isStatic && d.key == own

/-- How far in front a directive goes: by how specific it is, and then by its field. -/
def rank (d : Directive) : ℕ ×ₗ List (List Char) := toLex (d.specificity, d.fieldNames)

theorem isFor_iff : d.isFor own = true ↔ d.isStatic = true ∧ d.key = own := by
  simp [isFor]

theorem concerns_iff : d.concerns event = true ↔ d.isStatic = true ∧
    d.target.getD [] <+: event.target ∧ ∀ name ∈ d.fieldNames, name ∈ event.fields := by
  simp [concerns, and_assoc]

theorem isFor_self (h : d.concerns event = true) : d.isFor d.key = true :=
  isFor_iff.mpr ⟨(concerns_iff.mp h).1, rfl⟩

theorem concerns_of_isFor (hd : d.concerns event = true) (he : e.isFor d.key = true) :
    e.concerns event = true := by
  obtain ⟨-, hprefix, hfields⟩ := concerns_iff.mp hd
  obtain ⟨hstatic, hkey⟩ := isFor_iff.mp he
  obtain ⟨htarget, hnames⟩ := Prod.mk.inj hkey
  exact concerns_iff.mpr ⟨hstatic, htarget ▸ hprefix, hnames ▸ hfields⟩

theorem specificity_congr (h : d.target = e.target) : d.specificity = e.specificity := by
  rw [specificity, specificity, h]

theorem rank_congr (h : d.key = e.key) : d.rank = e.rank := by
  obtain ⟨htarget, hnames⟩ := Prod.mk.inj h
  rw [rank, rank, specificity_congr htarget, hnames]

/-- Of the directives about an event, two that are equally specific have the same target. -/
theorem target_eq_of_specificity_eq (hd : d.concerns event = true) (he : e.concerns event = true)
    (h : d.specificity = e.specificity) : d.target = e.target := by
  obtain ⟨-, hd, -⟩ := concerns_iff.mp hd
  obtain ⟨-, he, -⟩ := concerns_iff.mp he
  rw [specificity, specificity] at h
  cases hdt : d.target with
  | none =>
    cases het : e.target with
    | none => rfl
    | some other => simp [hdt, het] at h
  | some first =>
    cases het : e.target with
    | none => simp [hdt, het] at h
    | some other =>
      simp only [hdt, het, Option.getD_some, Nat.add_right_cancel_iff] at h hd he
      obtain hle | hle := List.prefix_or_prefix_of_prefix hd he
      · rw [Text.eq_of_isPrefix_of_byteLength hle h]
      · rw [Text.eq_of_isPrefix_of_byteLength hle h.symm]

/-- Of the directives about an event, two of the same rank have the same key. -/
theorem key_eq_of_rank_eq (hd : d.concerns event = true) (he : e.concerns event = true)
    (h : d.rank = e.rank) : d.key = e.key := by
  obtain ⟨hspecificity, hnames⟩ := Prod.mk.inj (toLex.injective h)
  exact Prod.ext (target_eq_of_specificity_eq hd he hspecificity) hnames

end Directive

namespace Filter

/-- The last of the directives with a key. -/
def latest (own : Key) (ds : List Directive) : Option Directive :=
  (ds.filter (·.isFor own)).getLast?

theorem latest_append (xs ys : List Directive) :
    latest own (xs ++ ys) = (latest own ys).or (latest own xs) := by
  rw [latest, List.filter_append, List.getLast?_append]
  rfl

theorem latest_singleton : latest own [d] = if d.isFor own then some d else none := by
  rw [latest, List.filter_cons]
  split <;> rfl

theorem latest_append_singleton_of_isFor (h : d.isFor own = true) (xs : List Directive) :
    latest own (xs ++ [d]) = some d := by
  rw [latest_append, latest_singleton, if_pos h, Option.some_or]

theorem mem_of_latest (h : latest own ds = some d) : d ∈ ds ∧ d.isFor own = true :=
  List.mem_filter.mp (List.mem_of_getLast? h)

theorem exists_latest (hmem : d ∈ ds) (h : d.isFor own = true) : ∃ e, latest own ds = some e := by
  cases hlast : latest own ds with
  | some e => exact ⟨e, rfl⟩
  | none =>
    have hnil := List.getLast?_eq_none_iff.mp hlast
    exact absurd (List.mem_filter.mpr ⟨hmem, h⟩) (hnil ▸ List.not_mem_nil)

/-- Whether a directive is the one that judges an event. -/
structure Governs (event : Metadata) (ds : List Directive) (d : Directive) : Prop where
  concerns : d.concerns event = true
  latest : latest d.key ds = some d
  greatest : ∀ e ∈ ds, e.concerns event = true → e.rank ≤ d.rank

namespace Governs

theorem mem (h : Governs event ds d) : d ∈ ds := (mem_of_latest h.latest).1

theorem unique (hd : Governs event ds d) (he : Governs event ds e) : d = e := by
  have hrank : d.rank = e.rank :=
    le_antisymm (he.greatest d hd.mem hd.concerns) (hd.greatest e he.mem he.concerns)
  have hkey := Directive.key_eq_of_rank_eq hd.concerns he.concerns hrank
  have hlatest := hd.latest
  rw [hkey, he.latest] at hlatest
  exact (Option.some.inj hlatest).symm

/-- Only the last directive for each key matters. -/
theorem congr (h : ∀ own : Key, own.1.getD [] <+: event.target → Filter.latest own ds =
    Filter.latest own es) (hd : Governs event ds d) : Governs event es d := by
  refine ⟨hd.concerns, (h d.key (Directive.concerns_iff.mp hd.concerns).2.1) ▸ hd.latest,
    fun e he hconcerns => ?_⟩
  -- The last directive of `es` with the key of `e` is in `ds` too, and of the rank of `e`.
  obtain ⟨last, hlast⟩ := exists_latest he (Directive.isFor_self hconcerns)
  obtain ⟨hmem, hfor⟩ := mem_of_latest
    ((h e.key (Directive.concerns_iff.mp hconcerns).2.1).trans hlast)
  rw [← Directive.rank_congr (Directive.isFor_iff.mp hfor).2]
  exact hd.greatest last hmem (Directive.concerns_of_isFor hconcerns hfor)

/-- A directive about the event governs from behind those of no higher rank. -/
theorem later (he : e.concerns event = true)
    (hgreatest : ∀ b ∈ ds, b.concerns event = true → b.rank ≤ e.rank) :
    Governs event (ds ++ [e]) e := by
  refine ⟨he, latest_append_singleton_of_isFor (Directive.isFor_self he) ds, ?_⟩
  intro b hb hbc
  obtain hb | hb := List.mem_append.mp hb
  · exact hgreatest b hb hbc
  · obtain rfl := List.mem_singleton.mp hb
    exact le_rfl

end Governs

end Filter

end Log

end Handoff

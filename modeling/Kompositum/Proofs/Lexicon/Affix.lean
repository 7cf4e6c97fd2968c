import Kompositum.Lexicon.Affix

/-!
# The forms that affix rules derive

A rule puts its affix in the place of the text that it strips. A word with flags has the forms that
rules of these flags derive from it, and those with an affix at both ends where both flags allow it.

* `AffixRule.Derives`: what a rule makes of a word.
* `AffixFile.Form`: the forms of a word with flags.
* `AffixFile.mem_expand_iff`: an expansion holds these forms and no other.
-/

namespace Kompositum

variable {P : Type} [PatternLanguage P]

namespace AffixRule

/-- The affix takes the place of the stripped text, at the end to which the rule applies. -/
def Replaces (r : AffixRule P) (w f : Text) : Prop :=
  match r.kind with
  | .pre => ∃ stem, w = r.stripped ++ stem ∧ f = r.affix ++ stem
  | .suf => ∃ stem, w = stem ++ r.stripped ∧ f = stem ++ r.affix

/-- **What a rule makes of a word**: the condition holds of the word, the affix takes the place of
the stripped text, and something is left. -/
structure Derives (r : AffixRule P) (w f : Text) : Prop where
  holds : r.holds w = true
  replaces : r.Replaces w f
  ne_nil : f ≠ []

omit [PatternLanguage P] in
theorem replaced?_eq_some_iff {r : AffixRule P} {w f : Text} :
    r.replaced? w = some f ↔ r.Replaces w f := by
  unfold replaced? Replaces
  cases r.kind with
  | pre => simp only [Option.map_eq_some_iff, Text.stripPrefix?_eq_some_iff, eq_comm (b := f)]
  | suf => simp only [Option.map_eq_some_iff, Text.stripSuffix?_eq_some_iff, eq_comm (b := f)]

theorem derived?_eq_some_iff {r : AffixRule P} {w f : Text} :
    r.derived? w = some f ↔ r.Derives w f := by
  rw [derived?, Option.ite_none_right_eq_some, Option.filter_eq_some_iff, replaced?_eq_some_iff]
  constructor
  · rintro ⟨hholds, hreplaces, hne⟩
    exact ⟨hholds, hreplaces, by simpa using hne⟩
  · rintro ⟨hholds, hreplaces, hne⟩
    exact ⟨hholds, hreplaces, by simpa using hne⟩

end AffixRule

namespace AffixFile

/-- A rule of a kind whose flag is among the flags of a word. -/
structure Offers (a : AffixFile P) (kind : AffixKind) (flags : Text) (r : AffixRule P) : Prop where
  mem : r ∈ a.rules
  kind_eq : r.kind = kind
  flag_mem : r.flag ∈ flags

/-- **The forms of a word with flags.** -/
inductive Form (a : AffixFile P) (w flags : Text) : Text → Prop
  /-- The word itself. -/
  | plain : Form a w flags w
  /-- With a suffix. -/
  | suffixed {s : AffixRule P} {f : Text} :
      a.Offers .suf flags s → s.Derives w f → Form a w flags f
  /-- With a prefix. -/
  | prefixed {p : AffixRule P} {f : Text} :
      a.Offers .pre flags p → p.Derives w f → Form a w flags f
  /-- With a suffix and then a prefix; the flags of both allow cross products. -/
  | crossed {s p : AffixRule P} {g f : Text} :
      a.Offers .suf flags s → a.crosses .suf s.flag = true →
      a.Offers .pre flags p → a.crosses .pre p.flag = true →
      s.Derives w g → p.Derives g f → Form a w flags f

variable {a : AffixFile P} {w flags f : Text}

omit [PatternLanguage P] in
theorem mem_applicable_iff {kind : AffixKind} {r : AffixRule P} :
    r ∈ a.applicable kind flags ↔ a.Offers kind flags r := by
  rw [applicable, List.mem_filter, Bool.and_eq_true, decide_eq_true_eq, List.contains_iff_mem]
  exact ⟨fun ⟨hmem, hkind, hflag⟩ => ⟨hmem, hkind, hflag⟩, fun h => ⟨h.mem, h.kind_eq, h.flag_mem⟩⟩

/-- The forms with a suffix, each with whether a prefix may join it. -/
theorem mem_suffixed_iff {cross : Bool} :
    (f, cross) ∈ a.suffixed w flags ↔
      ∃ s, a.Offers .suf flags s ∧ s.Derives w f ∧ a.crosses .suf s.flag = cross := by
  simp only [suffixed, List.mem_filterMap, mem_applicable_iff, Option.map_eq_some_iff,
    AffixRule.derived?_eq_some_iff, Prod.mk.injEq]
  constructor
  · rintro ⟨s, hs, g, hg, rfl, hcross⟩
    exact ⟨s, hs, hg, hcross⟩
  · rintro ⟨s, hs, hf, hcross⟩
    exact ⟨s, hs, f, hf, rfl, hcross⟩

/-- The forms with a suffix that a prefix may join. -/
theorem mem_bases_iff :
    f ∈ ((a.suffixed w flags).filter Prod.snd).map Prod.fst ↔
      ∃ s, a.Offers .suf flags s ∧ s.Derives w f ∧ a.crosses .suf s.flag = true := by
  rw [← mem_suffixed_iff, List.mem_map]
  constructor
  · rintro ⟨⟨g, cross⟩, hg, rfl⟩
    obtain ⟨hmem, hcross⟩ := List.mem_filter.1 hg
    exact (show cross = true from hcross) ▸ hmem
  · exact fun hf => ⟨(f, true), List.mem_filter.2 ⟨hf, rfl⟩, rfl⟩

/-- The forms with one prefix. -/
theorem mem_prefixed_iff {bases : List Text} {p : AffixRule P} :
    f ∈ a.prefixed w bases p ↔
      p.Derives w f ∨ a.crosses .pre p.flag = true ∧ ∃ g ∈ bases, p.Derives g f := by
  rw [prefixed, List.mem_append, Option.mem_toList, AffixRule.derived?_eq_some_iff]
  refine or_congr_right ?_
  split
  case isTrue hcross =>
    simp only [hcross, true_and, List.mem_filterMap, AffixRule.derived?_eq_some_iff]
  case isFalse hcross => simp [hcross]

/-- **An expansion holds the forms of a word** and no other. -/
theorem mem_expand_iff : f ∈ a.expand w flags ↔ a.Form w flags f := by
  have hsuffixed : f ∈ (a.suffixed w flags).map Prod.fst ↔
      ∃ s, a.Offers .suf flags s ∧ s.Derives w f := by
    rw [List.mem_map]
    constructor
    · rintro ⟨⟨g, cross⟩, hg, rfl⟩
      obtain ⟨s, hs, hderives, -⟩ := mem_suffixed_iff.1 hg
      exact ⟨s, hs, hderives⟩
    · rintro ⟨s, hs, hderives⟩
      exact ⟨(f, _), mem_suffixed_iff.2 ⟨s, hs, hderives, rfl⟩, rfl⟩
  rw [expand, List.mem_cons, List.mem_append, hsuffixed]
  simp only [List.mem_flatMap, mem_applicable_iff, mem_prefixed_iff, mem_bases_iff]
  constructor
  · rintro (rfl | ⟨s, hs, hf⟩ | ⟨p, hp, hf | ⟨hcrossp, g, ⟨s, hs, hg, hcrosss⟩, hf⟩⟩)
    · exact .plain
    · exact .suffixed hs hf
    · exact .prefixed hp hf
    · exact .crossed hs hcrosss hp hcrossp hg hf
  · rintro (_ | ⟨hs, hf⟩ | ⟨hp, hf⟩ | ⟨hs, hcrosss, hp, hcrossp, hg, hf⟩)
    · exact .inl rfl
    · exact .inr (.inl ⟨_, hs, hf⟩)
    · exact .inr (.inr ⟨_, hp, .inl hf⟩)
    · exact .inr (.inr ⟨_, hp, .inr ⟨hcrossp, _, ⟨_, hs, hg, hcrosss⟩, hf⟩⟩)

end AffixFile

end Kompositum

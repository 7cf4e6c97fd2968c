import Kompositum.Pattern.Parser
import Kompositum.Pipeline.Resource
import Kompositum.Proofs.Lexicon.Affix
import Kompositum.Proofs.Lexicon.Dictionary
import Kompositum.Proofs.Outcome
import Kompositum.Proofs.Text.Pieces

/-!
# The words of a lexicon

The first field of a line of a lexicon writes a word with its flags, unless the line is the count at
the head. The dictionary of the lexicon has the forms of these words, and there is none if it would
be empty.

* `Dictionary.IsEntry`: the words and flags that a lexicon writes; `mem_entries_iff`: its entries.
* `Dictionary.HasWord`: the words that a lexicon and its affix rules promise.
* `Dictionary.loadLexicon_words`: the dictionary has these words and no other.
-/

namespace Kompositum.Dictionary

variable {P : Type} [PatternLanguage P]

/-- A field writes a word and, after the first slash, its flags. There need not be a slash. -/
def Writes (field w flags : Text) : Prop :=
  '/' ∉ w ∧ (field = w ++ '/' :: flags ∨ field = w ∧ flags = [])

/-- A first line that has nothing but decimal digits is the count of the entries. -/
def IsHead (i : Nat) (line : Text) : Prop :=
  i = 0 ∧ ∀ c ∈ Text.trim line, Character.isDecimalDigit c = true

/-- **An entry of a lexicon** is written by the first field of a line that is not the count. Blank
lines have no fields. -/
def IsEntry (t w flags : Text) : Prop :=
  ∃ i line field fields, (Text.lines t)[i]? = some line ∧ ¬ IsHead i line ∧
    Text.words line = field :: fields ∧ Writes field w flags

/-- **The words of a lexicon**: the forms of its entries that are not too short, in the form in
which the dictionary keeps words. -/
def HasWord (o : DictionaryOptions) (a : AffixFile P) (t v : Text) : Prop :=
  ∃ w flags f, IsEntry t w flags ∧ a.Form w flags f ∧ Takes o f ∧
    (empty o.foldsCase).normalize (Text.trim f) = v

variable {t w flags line : Text}

theorem cutAt?_getD_eq_iff {field : Text} :
    (Text.cutAt? '/' field).getD (field, []) = (w, flags) ↔ Writes field w flags := by
  unfold Writes
  cases hcut : Text.cutAt? '/' field with
  | none =>
    have hslash := Text.cutAt?_eq_none_iff.1 hcut
    rw [Option.getD_none, Prod.mk.injEq, eq_comm (a := [])]
    constructor
    · rintro ⟨rfl, hflags⟩
      exact ⟨hslash, .inr ⟨rfl, hflags⟩⟩
    · rintro ⟨-, rfl | h⟩
      · exact absurd (by simp) hslash
      · exact h
  | some cut =>
    obtain ⟨s, r⟩ := cut
    obtain ⟨rfl, hs⟩ := Text.cutAt?_eq_some_iff.1 hcut
    rw [Option.getD_some, Prod.mk.injEq]
    constructor
    · rintro ⟨rfl, rfl⟩
      exact ⟨hs, .inl rfl⟩
    · rintro ⟨hw, h | ⟨rfl, -⟩⟩
      · -- both cut the field at its first slash
        have hcut' := Text.cutAt?_eq_some_iff.2 ⟨h, hw⟩
        rw [hcut] at hcut'
        simpa using hcut'
      · exact absurd (by simp) hw

theorem isCount_trim_iff {field : Text} {fields : List Text}
    (h : Text.words line = field :: fields) :
    isCount (Text.trim line) = true ↔
      ∀ c ∈ Text.trim line, Character.isDecimalDigit c = true := by
  have hne := Text.trim_ne_nil_iff.2 ⟨field, fields, h⟩
  rw [isCount, Bool.and_eq_true, List.all_eq_true]
  exact and_iff_right (by simpa using hne)

/-- The lines after the count, if the first line is one. -/
def body : List Text → List Text
  | [] => []
  | first :: rest => if isCount first then rest else first :: rest

theorem entries_eq (t : Text) :
    entries t =
      ((body ((Text.lines t).map Text.trim)).filter fun line => !line.isEmpty).map entry := by
  unfold entries
  cases (Text.lines t).map Text.trim <;> rfl

theorem mem_body_iff {ls : List Text} :
    line ∈ body ls ↔ ∃ i, ls[i]? = some line ∧ ¬ (i = 0 ∧ isCount line = true) := by
  cases ls with
  | nil => simp [body]
  | cons first rest =>
    have hrest : line ∈ rest ↔ ∃ i : Nat, rest[i]? = some line := List.mem_iff_getElem?
    rw [body]
    split
    case isTrue hcount =>
      rw [hrest]
      constructor
      · rintro ⟨i, hi⟩
        exact ⟨i + 1, hi, by simp⟩
      · rintro ⟨i, hi, hhead⟩
        cases i with
        | zero =>
          obtain rfl : first = line := by simpa using hi
          exact absurd ⟨rfl, hcount⟩ hhead
        | succ i => exact ⟨i, hi⟩
    case isFalse hcount =>
      rw [List.mem_iff_getElem?]
      refine exists_congr fun i => (and_iff_left_of_imp fun hi => ?_).symm
      rintro ⟨rfl, hline⟩
      obtain rfl : first = line := by simpa using hi
      exact hcount hline

/-- **The entries of a lexicon.** -/
theorem mem_entries_iff : (w, flags) ∈ entries t ↔ IsEntry t w flags := by
  rw [entries_eq]
  simp only [List.mem_map, List.mem_filter, mem_body_iff, List.getElem?_map, Option.map_eq_some_iff]
  constructor
  · rintro ⟨_, ⟨⟨i, ⟨line, hline, rfl⟩, hhead⟩, hne⟩, hentry⟩
    obtain ⟨field, fields, hfields⟩ := Text.trim_ne_nil_iff.1 (by simpa using hne)
    rw [isCount_trim_iff hfields] at hhead
    rw [entry, Text.words_trim, hfields] at hentry
    exact ⟨i, line, field, fields, hline, hhead, hfields, cutAt?_getD_eq_iff.1 hentry⟩
  · rintro ⟨i, line, field, fields, hline, hhead, hfields, hwrites⟩
    have hne := Text.trim_ne_nil_iff.2 ⟨field, fields, hfields⟩
    refine ⟨_, ⟨⟨i, ⟨line, hline, rfl⟩, ?_⟩, by simpa using hne⟩, ?_⟩
    · rw [isCount_trim_iff hfields]
      exact hhead
    · rw [entry, Text.words_trim, hfields]
      exact cutAt?_getD_eq_iff.2 hwrites

variable {o : DictionaryOptions} {a : AffixFile P} {v : Text}

theorem mem_words_ofLexicon_iff : v ∈ (ofLexicon o a t).words ↔ HasWord o a t v := by
  rw [ofLexicon, mem_words_ofList_iff]
  simp only [List.mem_flatMap, Prod.exists, mem_entries_iff, AffixFile.mem_expand_iff]
  constructor
  · rintro ⟨f, ⟨w, flags, hentry, hform⟩, htakes, hv⟩
    exact ⟨w, flags, f, hentry, hform, htakes, hv⟩
  · rintro ⟨w, flags, f, hentry, hform, htakes, hv⟩
    exact ⟨f, ⟨w, flags, hentry, hform⟩, htakes, hv⟩

/-- **The dictionary of a lexicon** has the forms that the affix rules derive from its entries and
no other word. It cannot be loaded if there is none. -/
theorem loadLexicon_words {files : Files} {path affix : Text} (o : DictionaryOptions)
    (haffix : AffixFile.load P files affix = .ok a) (htext : files.load path = .ok t) :
    ((∃ v, HasWord o a t v) → ∃ d, loadLexicon P o files path affix = .ok d ∧
      d.foldsCase = o.foldsCase ∧ ∀ v, v ∈ d.words ↔ HasWord o a t v) ∧
    (loadLexicon P o files path affix = .error (.resource path .noWords) ↔
      ∀ v, ¬ HasWord o a t v) := by
  have hload : loadLexicon P o files path affix = nonempty path (ofLexicon o a t) := by
    rw [loadLexicon, haffix, ok_bind, htext, ok_bind]
  rw [hload, nonempty]
  constructor
  · rintro ⟨v, hv⟩
    have hne : (ofLexicon o a t).words ≠ [] := List.ne_nil_of_mem (mem_words_ofLexicon_iff.2 hv)
    rw [if_neg (by simpa using hne)]
    exact ⟨_, rfl, foldsCase_ofList o _, fun _ => mem_words_ofLexicon_iff⟩
  · simp only [← mem_words_ofLexicon_iff, ← List.eq_nil_iff_forall_not_mem]
    split
    case isTrue hnone => simpa using hnone
    case isFalse hsome => simpa using hsome

/-- The files of a lexicon with one entry, which takes the only prefix and the only suffix. -/
def calmFiles : Files where
  home := []
  entries := [
    (["de.aff"], .file (Utf8.encode "PFX U Y 1\nPFX U 0 un .\nSFX N Y 1\nSFX N 0 n e\n")),
    (["de.dic"], .file (Utf8.encode "1\nRuhe/UN\n"))]

/-- The rules of this lexicon. -/
def calmRules : AffixFile Pattern := (AffixFile.load Pattern calmFiles "de.aff").toOption.getD .empty

/-- The dictionary of this lexicon has the word with both affixes. -/
theorem loadLexicon_words_calm :
    AffixFile.load Pattern calmFiles "de.aff" = .ok calmRules ∧
      calmFiles.load "de.dic" = .ok "1\nRuhe/UN\n" ∧
      ∃ d, loadLexicon Pattern {} calmFiles "de.dic" "de.aff" = .ok d ∧ d.foldsCase = true ∧
        (∀ v, v ∈ d.words ↔ HasWord {} calmRules "1\nRuhe/UN\n" v) ∧
        ("unruhen" : Text) ∈ d.words := by
  have haffix : AffixFile.load Pattern calmFiles "de.aff" = .ok calmRules := by decide +kernel
  have htext : calmFiles.load "de.dic" = .ok "1\nRuhe/UN\n" := by decide +kernel
  have hboth : HasWord {} calmRules "1\nRuhe/UN\n" "unruhen" :=
    mem_words_ofLexicon_iff.1 (by decide +kernel)
  obtain ⟨d, hload, hfolds, hwords⟩ := (loadLexicon_words {} haffix htext).1 ⟨_, hboth⟩
  exact ⟨haffix, htext, d, hload, hfolds, hwords, (hwords _).2 hboth⟩

end Kompositum.Dictionary

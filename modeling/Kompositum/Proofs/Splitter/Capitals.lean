import Kompositum.Proofs.Splitter.HeadTail
import Kompositum.Proofs.Text.Apart

/-!
# Head and tail in capitals and small letters

A dictionary that folds case finds head and tail in the small letters of a word, and so in whatever
case the word is written. Only the question whether the word is long enough is asked of the word as
it is written: an `İ` is one character there and two in small letters.

* `HeadTail.candidates_below_split`: what stands below the word.
* `HeadTail.split_caseless_iff`: when two ways to write a word give the same.
-/

namespace Kompositum.HeadTail

variable {s : HeadTail} {u v w : Text}

/-- **What stands below a word** is its preferred reading, if it is to be split. -/
theorem candidates_below_split (s : HeadTail) (w : Text) :
    (s.split w).below.candidates =
      if s.isOpen w = true then (s.preferred? (s.dictionary.normalize w)).toList else [] := by
  by_cases hopen : s.isOpen w = true
  · rw [if_pos hopen]
    cases hc : s.preferred? (s.dictionary.normalize w) with
    | none =>
      rw [split_of_none fun _ => hc]
      rfl
    | some c =>
      rw [split_of_preferred hopen hc]
      rfl
  · rw [if_neg hopen, split_of_none fun hyes => absurd hyes hopen]
    rfl

/-- Words with one form in the dictionary and the same answer to whether they are long enough have
the same reading. If the answers differ, only one of them can have a reading. -/
theorem candidates_below_split_eq_iff (huv : s.dictionary.normalize u = s.dictionary.normalize v) :
    (s.split u).below.candidates = (s.split v).below.candidates ↔
      (s.options.leastLength ≤ u.length ↔ s.options.leastLength ≤ v.length) ∨
      s.dictionary.normalize v ∈ s.dictionary.words ∨
      s.preferred? (s.dictionary.normalize v) = none := by
  -- the dictionary is asked about the common form, so that only the lengths can differ
  simp only [candidates_below_split, isOpen_iff, huv]
  by_cases hword : s.dictionary.normalize v ∈ s.dictionary.words
  · simp [hword]
  · cases s.preferred? (s.dictionary.normalize v) with
    | none => simp
    | some c =>
      by_cases hu : s.options.leastLength ≤ u.length <;>
        by_cases hv : s.options.leastLength ≤ v.length <;> simp [hword, hu, hv]

/-- **Two ways to write a word** have the same below them exactly if both are long enough for a
head and a tail or neither is, or the dictionary has the word, or there is no admissible pair of
cuts. They are equally long if they have the same number of `İ`. -/
theorem split_caseless_iff {o : DictionaryOptions} (ho : o.foldsCase = true) (ws : List Text)
    (ms : Morphemes) (options : HeadTailOptions) (cuts : Text.Cuts)
    (huv : Text.lower u = Text.lower v) :
    let s := ofDictionary (.ofList o ws) ms options cuts
    ((s.split u).below.candidates = (s.split v).below.candidates ↔
      (2 * max options.minFragmentLength 1 ≤ u.length ↔
        2 * max options.minFragmentLength 1 ≤ v.length) ∨
      Text.lower v ∈ s.dictionary.words ∨ ¬∃ h t, s.Admissible (Text.lower v) h t) ∧
    (u.count '\u0130' = v.count '\u0130' →
      (s.split u).below.candidates = (s.split v).below.candidates) := by
  intro s
  have hs : s.Counted := counted_ofList o ws ms options cuts
  have hnormal : ∀ t, s.dictionary.normalize t = Text.lower t := by
    intro t
    unfold Dictionary.normalize
    exact if_pos ((Dictionary.foldsCase_ofList o ws).trans ho)
  have hv := s.dictionary.isNormal_normalize v
  have hiff := candidates_below_split_eq_iff (s := s) (u := u) (v := v)
    (by rw [hnormal, hnormal, huv])
  rw [preferred?_eq_none_iff hs hv, hnormal] at hiff
  refine ⟨hiff, fun hcount => hiff.2 (.inl ?_)⟩
  have hlength : u.length = v.length := by
    have hu := Text.length_lower u
    have hv := Text.length_lower v
    rw [huv] at hu
    omega
  rw [hlength]

/-- Splitting by a dictionary with two words of two characters each. -/
def twoLetters : HeadTail := ofDictionary (.ofList {} ["ab", "i\u0307"]) .german {}

/-- A word that ends with `İ` is too short to be split, though its small letters are long enough. -/
theorem dotted_not_split :
    twoLetters.dictionary.foldsCase = true ∧ Text.lower "ab\u0130" = Text.lower "abi\u0307" ∧
      (twoLetters.split "ab\u0130").below.candidates ≠
        (twoLetters.split "abi\u0307").below.candidates := by
  have huv : Text.lower "ab\u0130" = Text.lower "abi\u0307" := by decide +kernel
  refine ⟨Dictionary.foldsCase_ofList {} _, huv, fun hsame => ?_⟩
  have hiff := (split_caseless_iff (o := {}) rfl ["ab", "i\u0307"] .german {} Text.clusters huv).1
  rcases hiff.1 hsame with hlong | hword | hnone
  · exact absurd hlong (by decide)
  · exact absurd hword (by decide +kernel)
  · -- the word can be cut between its two signs
    refine hnone ⟨2, 2, ⟨?_, ?_, le_refl 2, ?_, ?_, ?_, ?_, ?_, nofun⟩⟩
    all_goals decide +kernel

end Kompositum.HeadTail

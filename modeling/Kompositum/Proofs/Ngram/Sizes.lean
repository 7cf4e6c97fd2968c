import Kompositum.Proofs.Ngram.Counts
import Kompositum.Proofs.Ngram.Indexer
import Kompositum.Proofs.Ngram.Segment.Codec

/-!
# The segment of a count file fits its encoding

Texts and counts are written with their lengths below 2⁶⁴, and positions below 2³². What is read
from a count file is never too large for that, unless an order has too many grams.

* `CountFile.distinct`: the different rows of an order.
* `Indexer.length_counts`: the number of grams that are indexed.
* `Indexer.decode_segmentOf`: what is indexed is read back.
-/

namespace Kompositum

namespace CountFile

variable {foldsCase : Bool} {files : Files} {dir : Text} {n : Nat} {f : CountFile}

theorem ofOrder?_eq_ok :
    ofOrder? files dir n = .ok f ↔
      files.map (Path.join dir (fileName n)) = .ok f.content ∧
        f.path = Path.join dir (fileName n) := by
  unfold ofOrder? open?
  cases files.map (Path.join dir (fileName n)) with
  | error cause => simp
  | ok content =>
    obtain ⟨path, bytes⟩ := f
    simp [and_comm, eq_comm]

/-- **A count file fits into memory.** -/
theorem length_content_le (h : ofOrder? files dir n = .ok f) :
    f.content.length ≤ Files.mapLimit := by
  have hmap := (ofOrder?_eq_ok.1 h).1
  unfold Files.map at hmap
  obtain ⟨e, -, hcontent⟩ := bind_eq_ok.1 hmap
  cases e with
  | folder => cases hcontent
  | file content =>
    simp only at hcontent
    split at hcontent
    · cases hcontent
    · rename_i hle
      cases hcontent
      exact Nat.not_lt.1 hle

/-- **A gram is not much larger than the file** that it comes from: small letters take up at most
twice the bytes. -/
theorem size_unwords_le {r : List Text × Nat} (h : r ∈ f.rows foldsCase) :
    Utf8.size (Ngram.unwords r.1) ≤ 2 * f.content.length := by
  obtain ⟨line, hline, hr⟩ := List.mem_filterMap.1 h
  obtain ⟨t, ht, hr⟩ := Option.bind_eq_some_iff.1 hr
  obtain ⟨tokens, count, -, hwords, -, hrow⟩ := rowOf?_eq_some_iff.1 hr
  have hdecode : Utf8.decode line = .ok t := by
    cases hd : Utf8.decode line with
    | error fault => rw [hd] at ht; cases ht
    | ok u => rw [hd] at ht; cases ht; rfl
  have hlen : line.length ≤ f.content.length := (Text.sublist_of_mem_splitWhen hline).length_le
  have hsub : tokens.Sublist (Text.words t) := hwords ▸ List.sublist_append_left tokens [count]
  -- tokens with spaces between them take up no more bytes than their line
  have hsize : Utf8.size (Text.join [' '] tokens) ≤ f.content.length :=
    Nat.le_trans (Text.size_join_words_le hsub)
      (Nat.le_trans (Utf8.size_le_of_decode hdecode) hlen)
  rw [hrow]
  unfold Ngram.unwords
  cases foldsCase with
  | false =>
    rw [if_neg Bool.false_ne_true]
    omega
  | true =>
    have hlower := Text.size_lower_le (Text.join [' '] tokens)
    rw [Text.lower_join] at hlower
    rw [if_pos rfl]
    omega

variable (foldsCase) in
/-- **The different rows of as many tokens as an order says.** -/
def distinct (n : Nat) (f : CountFile) : List (List Text) :=
  (((f.rows foldsCase).map Prod.fst).filter (·.length == n)).eraseDups

theorem mem_distinct_iff {tokens : List Text} :
    tokens ∈ f.distinct foldsCase n ↔
      (∃ k, (tokens, k) ∈ f.rows foldsCase) ∧ tokens.length = n := by
  unfold distinct
  rw [List.mem_eraseDups, List.mem_filter, beq_iff_eq]
  simp

end CountFile

namespace Indexer

open Text (Table)

variable {foldsCase : Bool} {files : Files} {dir : Text} {n : Nat} {f : CountFile}

/-- **No more lines are left out** than a count file has. -/
theorem skipped_le (foldsCase : Bool) (n : Nat) (f : CountFile) :
    skipped foldsCase n f ≤ f.content.length + 1 := by
  have hlines : f.rawLines.length ≤ f.content.length + 1 := Text.length_splitWhen_le _ _
  have hfilled : f.rawLines.countP CountFile.isFilled ≤ f.rawLines.length :=
    List.countP_le_length
  rw [CountFile.countP_isFilled foldsCase] at hfilled
  have hother := List.countP_le_length (p := fun e => !hasOrder n e) (l := f.entries foldsCase)
  unfold skipped
  omega

/-- **No more grams are indexed** than there are different rows of an order. -/
theorem length_counts_le : (counts foldsCase n f).length ≤ (f.distinct foldsCase n).length := by
  -- different grams come from different rows
  have hsub : ∀ gram ∈ (counts foldsCase n f).keys,
      gram ∈ (f.distinct foldsCase n).map Ngram.unwords := by
    intro gram hgram
    obtain ⟨⟨g, m⟩, he, rfl⟩ := List.mem_map.1 hgram
    obtain ⟨tokens, hrow, horder, rfl, -⟩ := mem_counts_iff.1 he
    exact List.mem_map.2 ⟨tokens, CountFile.mem_distinct_iff.2 ⟨hrow, horder⟩, rfl⟩
  have hle := (sorted_counts n f).nodup_keys.length_le_of_subset hsub
  unfold Table.keys at hle
  rwa [List.length_map, List.length_map] at hle

/-- Rows of one length make up a multiple of it. -/
theorem length_flatMap_const {α β : Type} {g : α → List β} {k : Nat} {l : List α}
    (h : ∀ a ∈ l, (g a).length = k) : (l.flatMap g).length = l.length * k := by
  induction l with
  | nil => exact (Nat.zero_mul k).symm
  | cons a l ih =>
    rw [List.flatMap_cons, List.length_append, h a List.mem_cons_self,
      ih fun b hb => h b (List.mem_cons_of_mem a hb), List.length_cons, Nat.succ_mul, Nat.add_comm]

/-- **What is indexed is read back.** -/
theorem decode_segmentOf (h : CountFile.ofOrder? files dir n = .ok f)
    (horder : n < Record.wordBound)
    (hfew : (counts foldsCase n f).length ≤ Segment.maxGrams) :
    Segment.decode n (segmentOf foldsCase n f).encode = .ok (segmentOf foldsCase n f) := by
  have hcontent := CountFile.length_content_le h
  refine Segment.decode_encode (Segment.fits_ofCounts horder hfew ?_ ?_)
  · rintro ⟨gram, m⟩ he
    obtain ⟨tokens, ⟨k, hr⟩, -, rfl, rfl⟩ := mem_counts_iff.1 he
    have hsize : Utf8.size (Ngram.unwords tokens) ≤ 2 * f.content.length :=
      CountFile.size_unwords_le hr
    have hlimit : 2 * Files.mapLimit ≤ Count.largest := by decide
    exact ⟨by simp only; omega, Nat.min_le_right _ _⟩
  · -- every gram has as many tokens as its order says
    have hpieces : ∀ e ∈ counts foldsCase n f, (Ngram.pieces e.1).length = n :=
      fun e he => (pieces_of_mem_counts he).1
    have hall : ((counts foldsCase n f).flatMap fun e => Ngram.pieces e.1).length =
        (counts foldsCase n f).length * n := length_flatMap_const hpieces
    have hprod : (counts foldsCase n f).length * n ≤ Segment.maxGrams * Record.wordBound :=
      Nat.mul_le_mul hfew (Nat.le_of_lt horder)
    have hbound : Segment.maxGrams * Record.wordBound ≤ Count.largest := by decide
    have hterms := Segment.termCount_ofCounts_le n (counts foldsCase n f)
    exact Nat.le_trans hterms (hall ▸ Nat.le_trans hprod hbound)

end Indexer

end Kompositum

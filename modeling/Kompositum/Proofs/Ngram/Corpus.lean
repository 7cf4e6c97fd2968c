import Kompositum.Proofs.Ngram.Counts
import Kompositum.Proofs.Ngram.Segment.Search

/-!
# What a corpus answers

The count files of a corpus say which grams there are and how often they occur. This is what every
index of the corpus has to answer.

* `Corpus.Finds`: the grams that contain a query.
* `Corpus.freq`: how often a gram occurs.
* `Corpus.finds_scan`: scanning all count files finds the grams.
-/

namespace Kompositum

/-- The count files of all orders up to a greatest one. -/
structure Corpus where
  file : Nat → CountFile
  maxOrder : Nat
  foldsCase : Bool

namespace Corpus

/-- Whether a row of as many tokens as an order says is counted. -/
def Counts (c : Corpus) (n : Nat) (tokens : List Text) : Prop :=
  1 ≤ n ∧ n ≤ c.maxOrder ∧ tokens.length = n ∧ ∃ k, (tokens, k) ∈ (c.file n).rows c.foldsCase

/-- How often a row is counted, up to the largest count. -/
def count (c : Corpus) (n : Nat) (tokens : List Text) : Nat :=
  min ((c.file n).tally c.foldsCase tokens) Count.largest

/-- **What a corpus answers to a query**: all grams whose tokens hold those of the query one after
the other, in ascending order and none of them twice. -/
structure Finds (c : Corpus) (query : Text) (found : List Gram) : Prop where
  ascending : found.Pairwise fun g h =>
    g.order < h.order ∨ g.order = h.order ∧ Text.before g.text h.text = true
  mem_iff : ∀ g, g ∈ found ↔
    ∃ tokens, c.Counts g.order tokens ∧ g.text = Ngram.unwords tokens ∧
      g.freq = c.count g.order tokens ∧ Ngram.tokenize c.foldsCase query ≠ [] ∧
      Ngram.tokenize c.foldsCase query <:+: tokens

/-- **How often a gram occurs in a corpus.** -/
def freq (c : Corpus) (gram : Text) : Nat :=
  let tokens := Ngram.tokenize c.foldsCase gram
  if 1 ≤ tokens.length ∧ tokens.length ≤ c.maxOrder then c.count tokens.length tokens else 0

/-- The grams that scanning all count files finds. -/
def scan (c : Corpus) (query : Text) : List Gram :=
  let tokens := Ngram.tokenize c.foldsCase query
  if tokens.isEmpty then []
  else (List.range' 1 c.maxOrder).flatMap fun n => (c.file n).find n tokens c.foldsCase

variable {c : Corpus}

/-- What scanning a count file finds. -/
theorem mem_find_iff {f : CountFile} {foldsCase : Bool} {n : Nat} {query : List Text} {g : Gram} :
    g ∈ f.find n query foldsCase ↔
      g.order = n ∧ ∃ tokens, (∃ k, (tokens, k) ∈ f.rows foldsCase) ∧ tokens.length = n ∧
        g.text = Ngram.unwords tokens ∧ g.freq = min (f.tally foldsCase tokens) Count.largest ∧
        query ≠ [] ∧ query <:+: tokens := by
  unfold CountFile.find
  by_cases hlen : n < query.length
  · rw [if_pos hlen]
    -- a query with more tokens than the order stands in none of its rows
    constructor
    · intro hg
      cases hg
    · rintro ⟨-, tokens, -, horder, -, -, -, hrun⟩
      have := hrun.length_le
      omega
  · rw [if_neg hlen, List.mem_map]
    constructor
    · rintro ⟨⟨gram, k⟩, he, rfl⟩
      obtain ⟨hcount, hrun⟩ := List.mem_filter.1 he
      obtain ⟨tokens, ⟨k, hr⟩, horder, rfl, rfl⟩ := Indexer.mem_counts_iff.1 hcount
      obtain ⟨hne, htoken⟩ := CountFile.isToken_of_mem_rows hr
      rw [Ngram.pieces_unwords hne htoken, Ngram.containsRun_iff] at hrun
      exact ⟨rfl, tokens, ⟨k, hr⟩, horder, rfl, rfl, hrun⟩
    · rintro ⟨rfl, tokens, ⟨k, hr⟩, horder, htext, hfreq, hrun⟩
      obtain ⟨hne, htoken⟩ := CountFile.isToken_of_mem_rows hr
      refine ⟨(g.text, g.freq), List.mem_filter.2 ⟨?_, ?_⟩, rfl⟩
      · exact Indexer.mem_counts_iff.2 ⟨tokens, ⟨k, hr⟩, horder, htext, hfreq⟩
      · rw [htext, Ngram.pieces_unwords hne htoken, Ngram.containsRun_iff]
        exact hrun

theorem pairwise_find (f : CountFile) (foldsCase : Bool) (n : Nat) (query : List Text) :
    (f.find n query foldsCase).Pairwise fun g h => Text.before g.text h.text = true := by
  unfold CountFile.find
  split
  · exact List.Pairwise.nil
  · rw [List.pairwise_map]
    exact (Indexer.sorted_counts n f).sublist List.filter_sublist

/-- **Scanning all count files** finds what the corpus answers. -/
theorem finds_scan (c : Corpus) (query : Text) : c.Finds query (c.scan query) := by
  unfold scan
  by_cases hnil : Ngram.tokenize c.foldsCase query = []
  · rw [hnil]
    exact ⟨List.Pairwise.nil, fun g => by simp [hnil]⟩
  · rw [if_neg (by simpa using hnil)]
    refine ⟨?_, fun g => ?_⟩
    · rw [List.pairwise_flatMap]
      have horders := List.pairwise_lt_range' (s := 1) (n := c.maxOrder) 1
      refine ⟨fun n _ => ?_, horders.imp fun hlt g hg h hh => ?_⟩
      · -- within an order, grams stand as in the table of counts
        refine (pairwise_find (c.file n) c.foldsCase n _).imp_of_mem fun {g h} hg hh hbefore => ?_
        exact .inr ⟨(mem_find_iff.1 hg).1.trans (mem_find_iff.1 hh).1.symm, hbefore⟩
      · left
        rw [(mem_find_iff.1 hg).1, (mem_find_iff.1 hh).1]
        exact hlt
    · rw [List.mem_flatMap]
      constructor
      · rintro ⟨n, hn, hg⟩
        obtain ⟨rfl, tokens, hrow, horder, htext, hfreq, hrun⟩ := mem_find_iff.1 hg
        rw [List.mem_range'_1] at hn
        exact ⟨tokens, ⟨hn.1, by omega, horder, hrow⟩, htext, hfreq, hrun⟩
      · rintro ⟨tokens, ⟨h1, hM, horder, hrow⟩, htext, hfreq, hrun⟩
        refine ⟨g.order, List.mem_range'_1.2 ⟨h1, by omega⟩, mem_find_iff.2 ?_⟩
        exact ⟨rfl, tokens, hrow, horder, htext, hfreq, hrun⟩

end Corpus

end Kompositum

import Mathlib.Data.List.Infix
import Kompositum.Proofs.Ngram.Segment.Storage

/-!
# Looking up is scanning

The positions of tokens only save time. A segment that has been built finds what a plain scan over
all its counts finds, and it would find the same from the positions of any other token of the query:
which of them has the fewest does not matter.

* `Segment.scan`: the grams in which the tokens of a query stand one after the other.
* `Segment.answersAt`: what a query finds at some positions.
* `Segment.scan_of_segment`: a segment that has been built finds what a scan finds.
-/

namespace Kompositum

namespace Segment

open Text (Table)

/-- **A plain scan**: the grams of some counts in which a query stands, for queries of one token up
to as many as the grams have. -/
def scan (order : Nat) (counts : Table Nat) (query : List Text) : List Gram :=
  if query ≠ [] ∧ query.length ≤ order then
    (counts.filter fun e => decide (query <:+: Ngram.pieces e.1)).map fun e => ⟨e.1, order, e.2⟩
  else []

/-- What a query finds among the grams at some positions. -/
def answersAt (s : Segment) (query : List Text) (ids : List Nat) : List Gram :=
  ((ids.filterMap fun id => s.grams[id]?).filter fun e =>
    Ngram.containsRun (Ngram.pieces e.1) query).map fun e => ⟨e.1, s.order, e.2⟩

/-- **A scan finds grams in ascending order.** -/
theorem pairwise_scan {counts : Table Nat} (h : counts.Sorted) (order : Nat) (query : List Text) :
    (scan order counts query).Pairwise fun g g' => Text.before g.text g'.text = true := by
  unfold scan
  split
  · exact List.pairwise_map.2 (h.sublist List.filter_sublist)
  · exact List.Pairwise.nil

/-- A run of tokens is looked for as the scan does. -/
theorem filter_containsRun {query : List Text} (h : query ≠ []) (counts : Table Nat) :
    (counts.filter fun e => Ngram.containsRun (Ngram.pieces e.1) query) =
      counts.filter fun e => decide (query <:+: Ngram.pieces e.1) := by
  refine List.filter_congr fun e _ => ?_
  rw [Bool.eq_iff_iff, Ngram.containsRun_iff, decide_eq_true_iff]
  exact and_iff_right h

/-- **What a segment finds is what a scan finds.** -/
theorem find_ofCounts_eq_scan (order : Nat) (counts : Table Nat) (query : List Text) :
    (ofCounts order counts).find query = scan order counts query := by
  rw [find_ofCounts, scan]
  by_cases hlen : order < query.length
  · have hlong : ¬(query ≠ [] ∧ query.length ≤ order) := fun h => Nat.not_le.2 hlen h.2
    rw [if_pos hlen, if_neg hlong]
  · rw [if_neg hlen]
    by_cases hne : query = []
    · subst hne
      rw [Ngram.filter_containsRun_nil, if_neg (by simp)]
      rfl
    · rw [if_pos ⟨hne, Nat.not_lt.1 hlen⟩, filter_containsRun hne]

/-- **The positions of every token of a query** lead to all the grams that it stands in. -/
theorem answersAt_postings {order : Nat} {counts : Table Nat} {query : List Text}
    (hlen : query.length ≤ order) {token : Text} (htoken : token ∈ query) {ids : List Nat}
    (hids : (ofCounts order counts).postings.get? token = some ids) :
    (ofCounts order counts).answersAt query ids = scan order counts query := by
  rw [get?_postings_ofCounts] at hids
  split at hids
  · cases hids
  · obtain rfl := Option.some.inj hids
    have hne : query ≠ [] := List.ne_nil_of_mem htoken
    have hgrams : (ofCounts order counts).grams = counts := rfl
    rw [answersAt, hgrams, filter_occurrences htoken, filter_containsRun hne, scan,
      if_pos ⟨hne, hlen⟩]
    rfl

/-- **A segment that has been built finds what a plain scan finds**, in ascending order, and would
find it from the positions of any token of the query. The frequency of a gram is its count. -/
theorem scan_of_segment {counts : Table Nat} (h : counts.Sorted)
    (hfew : counts.length ≤ maxGrams) (order : Nat) :
    ∃ s, Indexer.segment order counts = .ok s ∧
      (∀ query, s.find query = scan order counts query) ∧
      (∀ query, (s.find query).Pairwise fun g g' => Text.before g.text g'.text = true) ∧
      (∀ query, query.length ≤ order → ∀ token ∈ query, ∀ ids,
        s.postings.get? token = some ids → s.answersAt query ids = scan order counts query) ∧
      ∀ gram, s.freq? gram = counts.get? gram := by
  have hscan := find_ofCounts_eq_scan order counts
  refine ⟨ofCounts order counts, Indexer.segment_eq_ok_iff.2 ⟨hfew, rfl⟩, hscan, ?_, ?_, ?_⟩
  · intro query
    rw [hscan]
    exact pairwise_scan h order query
  · intro query hlen token htoken ids hids
    exact answersAt_postings hlen htoken hids
  · exact freq?_eq_get? h

theorem scan_of_segment_three : threeCounts.Sorted ∧ threeCounts.length ≤ maxGrams ∧
    ∃ s, Indexer.segment 2 threeCounts = .ok s ∧
      s.find ["b"] = [⟨"a b", 2, Count.largest⟩, ⟨"b b", 2, 7⟩] ∧ s.find [[]] = [⟨[], 2, 0⟩] ∧
      s.find ["a", "b", "b"] = [] ∧ s.freq? "b b" = some 7 ∧ s.freq? "b" = none := by
  have hsorted : threeCounts.Sorted := inMemory_threeCounts.sorted
  have hfew : threeCounts.length ≤ maxGrams := by decide
  obtain ⟨s, hbuilt, hfind, -, -, hfreq⟩ := scan_of_segment hsorted hfew 2
  refine ⟨hsorted, hfew, s, hbuilt, ?_, ?_, ?_, ?_, ?_⟩
  · rw [hfind]
    decide
  · rw [hfind]
    decide
  · rw [hfind]
    decide
  · rw [hfreq]
    decide
  · rw [hfreq]
    decide

end Segment

end Kompositum

import Kompositum.Proofs.Ngram.Counts
import Kompositum.Proofs.Text.Small
import Kompositum.Ranking.Frequency

/-!
# What a table of frequencies says

A table may be filled gram by gram. It keeps them by their tokens in small letters, so that it says
of a gram how often its row of tokens has been added in all, whichever way it was written.

* `FrequencyTable.rows`: the rows of tokens that some entries add.
* `FrequencyTable.freq_ofEntries`: how often a gram occurs in a table.
* `FrequencyTable.total_ofEntries`: how many single tokens it counts.
-/

namespace Kompositum

namespace Ngram

/-- **The tokens of a gram** are those that it was written with, in small letters. -/
theorem tokenize_unwords {tokens : List Text} (h : ∀ t ∈ tokens, IsToken t) :
    tokenize true (unwords tokens) = tokens.map Text.lower := by
  unfold tokenize
  rw [if_pos rfl, words_unwords h]

end Ngram

namespace FrequencyTable

open Text (Table)

/-- The table of some entries, added one by one. -/
def ofEntries (es : List (Text × Nat)) : FrequencyTable :=
  es.foldl (fun t e => t.add e.1 e.2) empty

/-- **The rows of tokens that some entries add**, with their counts. Text without tokens is none of
them. -/
def rows (es : List (Text × Nat)) : List (List Text × Nat) :=
  (es.map fun e => (Ngram.tokenize true e.1, e.2)).filter fun r => r.1 != []

theorem add_of_tokenize_eq_nil {gram : Text} (h : Ngram.tokenize true gram = [])
    (t : FrequencyTable) (count : Nat) : t.add gram count = t := by
  unfold add
  rw [h]

theorem add_of_tokenize_ne_nil {gram : Text} (h : Ngram.tokenize true gram ≠ [])
    (t : FrequencyTable) (count : Nat) :
    t.add gram count =
      ⟨Indexer.merge t.counts (Ngram.unwords (Ngram.tokenize true gram), count),
        if (Ngram.tokenize true gram).length = 1 then Count.add t.total count else t.total⟩ := by
  unfold add
  obtain ⟨w, ws, hws⟩ := List.ne_nil_iff_exists_cons.1 h
  rw [hws]
  rfl

/-- More entries merge the counts of their rows. -/
theorem foldl_add (es : List (Text × Nat)) (t : FrequencyTable) :
    es.foldl (fun t e => t.add e.1 e.2) t =
      ⟨((rows es).map fun r => (Ngram.unwords r.1, r.2)).foldl Indexer.merge t.counts,
        (((rows es).filter fun r => r.1.length == 1).map Prod.snd).foldl Count.add t.total⟩ := by
  induction es generalizing t with
  | nil => rfl
  | cons e es ih =>
    rw [List.foldl_cons, ih]
    unfold rows
    rw [List.map_cons]
    by_cases hnil : Ngram.tokenize true e.1 = []
    · rw [add_of_tokenize_eq_nil hnil, List.filter_cons_of_neg (by simpa using hnil)]
    · rw [add_of_tokenize_ne_nil hnil, List.filter_cons_of_pos (by simpa using hnil),
        List.map_cons, List.foldl_cons]
      by_cases hone : (Ngram.tokenize true e.1).length = 1
      · rw [if_pos hone, List.filter_cons_of_pos (by simpa using hone), List.map_cons,
          List.foldl_cons]
      · rw [if_neg hone, List.filter_cons_of_neg (by simpa using hone)]

/-- **A table of some entries.** -/
theorem ofEntries_eq (es : List (Text × Nat)) :
    ofEntries es =
      ⟨((rows es).map fun r => (Ngram.unwords r.1, r.2)).foldl Indexer.merge [],
        (((rows es).filter fun r => r.1.length == 1).map Prod.snd).foldl Count.add 0⟩ :=
  foldl_add es empty

/-- What rows are made of. -/
theorem isToken_of_mem_rows {es : List (Text × Nat)} {r : List Text × Nat} (h : r ∈ rows es) :
    ∀ t ∈ r.1, Ngram.IsToken t := by
  obtain ⟨hmem, -⟩ := List.mem_filter.1 h
  obtain ⟨e, -, rfl⟩ := List.mem_map.1 hmem
  intro t ht
  have htokenize : t ∈ Ngram.tokenize true e.1 := ht
  exact Ngram.isToken_of_mem_tokenize htokenize

/-- **How often a gram occurs**: all counts of its row added up, up to the largest count. -/
theorem freq_ofEntries (es : List (Text × Nat)) (gram : Text) :
    (ofEntries es).freq gram =
      min (Count.sum (((rows es).filter fun r => r.1 == Ngram.tokenize true gram).map Prod.snd))
        Count.largest := by
  have htoken (t : Text) (ht : t ∈ Ngram.tokenize true gram) := Ngram.isToken_of_mem_tokenize ht
  -- rows that are written like the gram are its row
  have hfilter : ((rows es).map fun r => (Ngram.unwords r.1, r.2)).filter
        (fun e => e.1 == key gram) =
      ((rows es).filter fun r => r.1 == Ngram.tokenize true gram).map
        fun r => (Ngram.unwords r.1, r.2) := by
    rw [List.filter_map]
    congr 1
    refine List.filter_congr fun r hr => ?_
    rw [Function.comp_apply, Bool.eq_iff_iff, beq_iff_eq, beq_iff_eq]
    exact ⟨Ngram.unwords_inj (isToken_of_mem_rows hr) htoken, fun heq => by rw [heq]; rfl⟩
  unfold freq
  rw [ofEntries_eq]
  dsimp only
  rw [Indexer.getD_foldl_merge Table.sorted_nil _ (Nat.zero_le _), hfilter,
    List.map_map]
  exact congrArg (min · Count.largest) (Nat.zero_add _)

/-- **How many single tokens are counted**, up to the largest count. -/
theorem total_ofEntries (es : List (Text × Nat)) :
    (ofEntries es).total =
      min (Count.sum (((rows es).filter fun r => r.1.length == 1).map Prod.snd))
        Count.largest := by
  rw [ofEntries_eq]
  dsimp only
  rw [Count.foldl_add (Nat.zero_le _), Nat.zero_add]

/-- Entries in another order add the same rows. -/
theorem rows_perm {es es' : List (Text × Nat)} (h : es.Perm es') : (rows es).Perm (rows es') :=
  (h.map _).filter _

end FrequencyTable

end Kompositum

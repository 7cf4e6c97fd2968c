import Kompositum.Proofs.Ngram.Answers

/-!
# The total of an index

An index says how many tokens its corpus has: the sum of all counts in the segment of the first
order, or in the count file of this order if it has no segment. The count file may have rows of
several tokens; they are no grams of its order, but add to its sum.

* `Indexer.totalFreq_segmentOf`: the sum in a segment.
* `CountFile.total_eq`: the sum in a count file.
* `Indexer.total_agrees_iff`: when all indexes of a corpus say the same.
-/

namespace Kompositum

namespace Count

/-- A sum is that of the counts that satisfy `p` and that of all others. -/
theorem sum_filter_add {α : Type} (p : α → Bool) (count : α → Nat) (l : List α) :
    sum ((l.filter p).map count) + sum ((l.filter fun a => !p a).map count) =
      sum (l.map count) := by
  induction l with
  | nil => rfl
  | cons a l ih =>
    cases hp : p a <;> simp [hp] <;> omega

theorem sum_eq_zero_iff {ns : List Nat} : sum ns = 0 ↔ ∀ n ∈ ns, n = 0 := by
  induction ns with
  | nil => simp
  | cons n ns ih => simp [ih]

end Count

/-! ## The sum in a segment -/

namespace Indexer

open Text (Table)

/-- An entry adds its count to the sum of all counts, up to the largest count. -/
theorem sum_merge (t : Table Nat) (e : Text × Nat) :
    min (Count.sum ((merge t e).map Prod.snd)) Count.largest =
      min (Count.sum (t.map Prod.snd) + e.2) Count.largest := by
  unfold merge
  induction t with
  | nil =>
    simp only [Table.alter, Count.add]
    simp
  | cons x t ih =>
    obtain ⟨k, n⟩ := x
    rw [Table.alter]
    -- a count that is cut off makes the sum exceed the largest count on both sides
    split
    · simp [Count.add]
      omega
    · split
      · simp [Count.add]
        omega
      · simp
        omega

/-- Entries add all of their counts. -/
theorem sum_foldl_merge (t : Table Nat) (es : List (Text × Nat)) :
    min (Count.sum ((es.foldl merge t).map Prod.snd)) Count.largest =
      min (Count.sum (t.map Prod.snd) + Count.sum (es.map Prod.snd)) Count.largest := by
  induction es generalizing t with
  | nil => rfl
  | cons e es ih =>
    have hstep := sum_merge t e
    rw [List.foldl_cons, ih, List.map_cons, Count.sum_cons]
    omega

end Indexer

/-! ## The sum in a count file -/

namespace CountFile

/-- The sum of all counts of rows of an order, however large. -/
def ownSum (foldsCase : Bool) (n : Nat) (f : CountFile) : Nat :=
  Count.sum (((f.rows foldsCase).filter fun r => r.1.length == n).map Prod.snd)

/-- The sum of all counts of rows of other orders. -/
def otherSum (foldsCase : Bool) (n : Nat) (f : CountFile) : Nat :=
  Count.sum (((f.rows foldsCase).filter fun r => !(r.1.length == n)).map Prod.snd)

/-- Folding case does not change how often a row is counted. -/
theorem map_snd_rows (foldsCase : Bool) (f : CountFile) :
    (f.rows foldsCase).map Prod.snd = (f.rows false).map Prod.snd := by
  unfold rows
  rw [List.map_filterMap, List.map_filterMap]
  congr 1
  funext line
  unfold row? rowOf?
  cases (Utf8.decode line).toOption with
  | none => rfl
  | some t =>
    cases hlast : (Text.words t).getLast? with
    | none => simp [hlast]
    | some last =>
      cases hcount : Count.ofText? last with
      | none => simp [hlast, hcount]
      | some n => by_cases hnil : (Text.words t).dropLast = [] <;> simp [hlast, hcount, hnil]

/-- **The sum of all counts** in a file, whatever the order of their rows. -/
theorem total_eq (foldsCase : Bool) (n : Nat) (f : CountFile) :
    f.total = min (f.ownSum foldsCase n + f.otherSum foldsCase n) Count.largest := by
  have hcounts : (f.entries false).map Prod.snd = (f.rows foldsCase).map Prod.snd := by
    rw [entries_eq, List.map_map, map_snd_rows foldsCase]
    rfl
  unfold total ownSum otherSum
  rw [Count.foldl_add_snd, hcounts, Count.sum_filter_add]

end CountFile

namespace Indexer

/-- The sum of all counts in a segment is that of the entries that have been merged into it. -/
theorem totalFreq_merged (order : Nat) (es : List (Text × Nat)) :
    (Segment.ofCounts order (es.foldl merge [])).totalFreq =
      min (Count.sum (es.map Prod.snd)) Count.largest := by
  have hsum := sum_foldl_merge [] es
  rw [List.map_nil, Count.sum_nil, Nat.zero_add] at hsum
  unfold Segment.totalFreq
  rw [Count.foldl_add_snd]
  exact hsum

/-- **The sum of all counts in a segment** is that of the rows of its order. -/
theorem totalFreq_segmentOf (foldsCase : Bool) (n : Nat) (f : CountFile) :
    (segmentOf foldsCase n f).totalFreq = min (f.ownSum foldsCase n) Count.largest := by
  have hentries : ((f.entries foldsCase).filter (hasOrder n)).map Prod.snd =
      ((f.rows foldsCase).filter fun r => r.1.length == n).map Prod.snd := by
    rw [CountFile.entries_eq, List.filter_map, List.map_map]
    congr 1
    refine List.filter_congr fun r hr => ?_
    obtain ⟨hne, htoken⟩ := CountFile.isToken_of_mem_rows hr
    rw [Function.comp_apply, hasOrder, Ngram.pieces_unwords hne htoken]
  rw [segmentOf, counts, totalFreq_merged, hentries]
  rfl

/-! ## The totals of all indexes -/

/-- **What an index says its total is**: the sum in the segment of the first order, or in its count
file. -/
theorem totalUnigrams_built {o : IndexOptions} {elapsed : Nat} (file : Nat → CountFile) (hmin : 1 ≤ o.minOrder)
    (hmax : o.minOrder ≤ o.maxOrder) :
    (built o elapsed file).totalUnigrams =
      if o.minOrder = 1 then min ((file 1).ownSum o.foldsCase 1) Count.largest
      else min ((file 1).ownSum o.foldsCase 1 + (file 1).otherSum o.foldsCase 1)
        Count.largest := by
  unfold built
  by_cases hone : o.minOrder = 1
  · obtain ⟨k, hk⟩ : ∃ k, o.maxOrder = k + 1 := ⟨o.maxOrder - 1, by omega⟩
    rw [if_pos hone, hone, hk, ← totalFreq_segmentOf]
    rfl
  · obtain ⟨k, hk⟩ : ∃ k, o.minOrder - 1 = k + 1 := ⟨o.minOrder - 2, by omega⟩
    rw [if_neg hone, hk, ← CountFile.total_eq]
    rfl

/-- **The total of an index**: the indexer returns it, the description holds it, and a finder
reports it. -/
def HasTotal (c : Corpus) (files : Files) (dir : Text) (minOrder total : Nat) : Prop :=
  ∀ (indexDir : Text) (now : Moment) (elapsed : Nat) (m : Memory),
    let o := options c dir indexDir minOrder
    ∃ stats m', (into o now elapsed files).run m = (.ok stats, m') ∧ stats.totalUnigrams = total ∧
      Store.read m' IndexMeta.fileName =
        .ok (Utf8.encode (about o now files stats).toJson.pretty) ∧
      (about o now files stats).totalUnigrams = total ∧
      ((about o now files stats).ReadsBack → ∀ (later : Files) (location : Text),
        SameCounts files later (Path.absolute files.homePath dir) c.maxOrder →
        ∃ finder, Finder.ofStore later m' location = .ok finder ∧
          finder.totalUnigrams = .ok total)

theorem hasTotal_iff {c : Corpus} {files : Files} {dir : Text} (h : Indexable c files dir)
    {minOrder : Nat} (hmin : 1 ≤ minOrder) (hmax : minOrder ≤ c.maxOrder) {total : Nat} :
    HasTotal c files dir minOrder total ↔
      total = if minOrder = 1 then min ((c.file 1).ownSum c.foldsCase 1) Count.largest
        else min ((c.file 1).ownSum c.foldsCase 1 + (c.file 1).otherSum c.foldsCase 1)
          Count.largest := by
  have hbuilt (indexDir : Text) (elapsed : Nat) :
      (built (options c dir indexDir minOrder) elapsed c.file).totalUnigrams = _ :=
    totalUnigrams_built c.file hmin hmax
  constructor
  · intro htotal
    -- two runs in the same state have the same result
    obtain ⟨stats, m', hrun, hstats, -⟩ := htotal [] (Moment.ofSeconds 0 0) 0 Memory.empty
    obtain ⟨m₂, hrun₂, -⟩ := ofStore_into h hmin hmax [] (Moment.ofSeconds 0 0) 0 Memory.empty
    rw [hrun] at hrun₂
    obtain rfl : stats = _ := Except.ok.inj (Prod.mk.inj hrun₂).1
    rw [← hstats]
    exact hbuilt [] 0
  · rintro rfl indexDir now elapsed m
    obtain ⟨m', hrun, hmeta, hfinder⟩ := ofStore_into h hmin hmax indexDir now elapsed m
    refine ⟨_, m', hrun, hbuilt indexDir elapsed, hmeta, hbuilt indexDir elapsed, ?_⟩
    intro hback later location hsame
    exact ⟨_, hfinder hback later location hsame, congrArg Except.ok (hbuilt indexDir elapsed)⟩

/-- **All indexes of a corpus say the same total** just when the count file of the first order has
no counts for rows of several tokens, or there is nothing to be added: a single order, or a sum that
has reached the largest count. -/
theorem total_agrees_iff {c : Corpus} {files : Files} {dir : Text} (h : Indexable c files dir)
    (hM : 1 ≤ c.maxOrder) :
    (∃ total, ∀ minOrder, 1 ≤ minOrder → minOrder ≤ c.maxOrder →
      HasTotal c files dir minOrder total) ↔
      c.maxOrder = 1 ∨ Count.largest ≤ (c.file 1).ownSum c.foldsCase 1 ∨
        ∀ r ∈ (c.file 1).rows c.foldsCase, r.1.length ≠ 1 → r.2 = 0 := by
  have hother : (c.file 1).otherSum c.foldsCase 1 = 0 ↔
      ∀ r ∈ (c.file 1).rows c.foldsCase, r.1.length ≠ 1 → r.2 = 0 := by
    unfold CountFile.otherSum
    rw [Count.sum_eq_zero_iff]
    simp only [List.forall_mem_map, List.mem_filter, Bool.not_eq_true', beq_eq_false_iff_ne]
    exact ⟨fun hzero r hr hne => hzero r ⟨hr, hne⟩, fun hzero r hr => hzero r hr.1 hr.2⟩
  rw [← hother]
  constructor
  · rintro ⟨total, htotal⟩
    by_cases hone : c.maxOrder = 1
    · exact .inl hone
    -- the total with a segment of the first order, and without one
    · have hfirst := (hasTotal_iff h (Nat.le_refl 1) hM).1 (htotal 1 (Nat.le_refl 1) hM)
      have hsecond := (hasTotal_iff h (by decide) (by omega)).1 (htotal 2 (by decide) (by omega))
      rw [if_pos rfl] at hfirst
      rw [if_neg (by decide)] at hsecond
      right
      omega
  · intro hcond
    refine ⟨min ((c.file 1).ownSum c.foldsCase 1) Count.largest, fun minOrder hmin hmax => ?_⟩
    rw [hasTotal_iff h hmin hmax]
    split
    · rfl
    · omega

/-- The count file of the first order counts `a b` three times: these are part of the total only if
the file is scanned. -/
theorem total_disagrees_twoOrders :
    Indexable ofTwoOrders twoOrders ['.'] ∧ 1 ≤ ofTwoOrders.maxOrder ∧
      ¬∃ total, ∀ minOrder, 1 ≤ minOrder → minOrder ≤ ofTwoOrders.maxOrder →
        HasTotal ofTwoOrders twoOrders ['.'] minOrder total := by
  refine ⟨indexable_ofTwoOrders, by decide, fun htotal => ?_⟩
  have hcond := (total_agrees_iff indexable_ofTwoOrders (by decide)).1 htotal
  revert hcond
  decide

end Indexer

end Kompositum

import Mathlib.Data.Finset.Card
import Kompositum.Proofs.Ngram.Rebuilding
import Kompositum.Proofs.Ngram.Totals

/-!
# What is said of an order

When an order has been indexed, the indexer says how many grams there are, what their counts add up
to, and how many lines have been left out. No line of the count file is forgotten or taken twice:
one that says something has either been left out or been merged into the segment.

* `CountFile.merged`: the grams and counts that are merged into a segment.
* `Indexer.Accounts`: what an account of an order says.
* `Indexer.accounts_statsOf`: the indexer gives such an account of every file.
* `Indexer.into_accounts`: a run gives such an account of all its orders.
-/

namespace Kompositum

/-- **The grams and counts of a file that are merged into the segment of an order**, in file
order. -/
def CountFile.merged (foldsCase : Bool) (n : Nat) (f : CountFile) : List (Text × Nat) :=
  (f.entries foldsCase).filter (Indexer.hasOrder n)

namespace Indexer

open Text (Table)

/-- **There are as many counts as different grams** among the entries that have been merged. -/
theorem length_foldl_merge (es : List (Text × Nat)) :
    (es.foldl merge []).length = (es.map Prod.fst).toFinset.card := by
  have hsorted := sorted_foldl_merge Table.sorted_nil es
  have hsame : (Table.keys (es.foldl merge [])).toFinset = (es.map Prod.fst).toFinset := by
    ext gram
    rw [List.mem_toFinset, List.mem_toFinset, Table.mem_keys_iff, ← Option.isSome_iff_exists,
      isSome_foldl_merge Table.sorted_nil, List.mem_map]
    constructor
    · rintro (hnone | hentry)
      · cases hnone
      · exact hentry
    · exact .inr
  have hlen : (Table.keys (es.foldl merge [])).length = (es.foldl merge []).length :=
    List.length_map _
  rw [← hsame, List.toFinset_card_of_nodup hsorted.nodup_keys, hlen]

/-- **An account of an order**: every line that says something has been left out or been merged, and
the segment holds what has been merged. -/
structure Accounts (foldsCase : Bool) (f : CountFile) (st : OrderStats) (s : Segment) : Prop where
  /-- No line is forgotten, and none is taken twice. -/
  lines : f.rawLines.countP CountFile.isFilled =
    st.malformedLines + (f.merged foldsCase st.order).length
  /-- The segment is made of the lines that have been merged. -/
  segment : s = .ofCounts st.order ((f.merged foldsCase st.order).foldl merge [])
  /-- The number of different grams. -/
  grams : st.grams = ((f.merged foldsCase st.order).map Prod.fst).toFinset.card
  /-- The sum of all counts, whether or not one gram alone reaches the largest count. -/
  totalFreq : st.totalFreq =
    min (Count.sum ((f.merged foldsCase st.order).map Prod.snd)) Count.largest
  /-- Every gram has as many tokens as the order says. -/
  tokens : ∀ e ∈ s.grams,
    (Ngram.pieces e.1).length = st.order ∧ Text.words e.1 = Ngram.pieces e.1

/-- **What the indexer says of an order** is an account of it, whatever the file holds. -/
theorem accounts_statsOf (foldsCase : Bool) (n : Nat) (f : CountFile) :
    Accounts foldsCase f (statsOf foldsCase n f) (segmentOf foldsCase n f) where
  lines := by
    have hfilled := CountFile.countP_isFilled foldsCase f
    have hleft : (statsOf foldsCase n f).malformedLines =
        f.malformed foldsCase + (f.entries foldsCase).countP (!hasOrder n ·) := rfl
    have hmerged : (f.merged foldsCase n).length = (f.entries foldsCase).countP (hasOrder n) :=
      List.countP_eq_length_filter.symm
    -- an entry is merged or left out by its order
    have hentries : (f.entries foldsCase).length = (f.entries foldsCase).countP (hasOrder n) +
        (f.entries foldsCase).countP (!hasOrder n ·) := by
      have hsplit := List.length_eq_countP_add_countP (hasOrder n) (l := f.entries foldsCase)
      simpa using hsplit
    change _ = _ + (f.merged foldsCase n).length
    omega
  segment := rfl
  grams := length_foldl_merge (f.merged foldsCase n)
  totalFreq := totalFreq_merged n (f.merged foldsCase n)
  tokens := fun _ he => pieces_of_mem_counts he

open Store.Tabular (Sound)

/-- **A run that succeeds** gives an account of every order of its range, and of no other. The
segment of each is in the storage. -/
theorem into_accounts {o : IndexOptions} (hvalid : o.validate = .ok ()) {now : Moment}
    {elapsed : Nat} {files : Files} {σ : Type} [Store σ] [Store.Tabular σ] {s s' : σ} (hs : Sound s)
    {stats : IndexStats} (h : (into o now elapsed files).run s = (.ok stats, s')) :
    stats.orders.map OrderStats.order =
        List.range' o.minOrder (o.maxOrder + 1 - o.minOrder) ∧
      ∀ st ∈ stats.orders, ∃ f seg,
        CountFile.ofOrder? files o.sourceDir st.order = .ok f ∧
        Store.read s' (Segment.fileName st.order) = .ok seg.encode ∧
        (st.order < Record.wordBound → Segment.load st.order s' = .ok seg) ∧
        Accounts o.foldsCase f st seg := by
  obtain ⟨hmin, hmax⟩ := IndexOptions.validate_eq_ok_iff.1 hvalid
  obtain ⟨file, hfile, hrebuilt⟩ := rebuilt_of_into hmin hmax hs h
  have horders : stats.orders = (List.range' o.minOrder (o.maxOrder + 1 - o.minOrder)).map
      fun n => statsOf o.foldsCase n (file n) := by
    rw [hrebuilt.stats_eq]
    rfl
  rw [horders]
  constructor
  · rw [List.map_map]
    exact List.map_id _
  · intro st hst
    obtain ⟨n, hn, rfl⟩ := List.mem_map.1 hst
    rw [List.mem_range'_1] at hn
    have hread := hrebuilt.read_segment n hn.1 (by omega)
    have hfound := hfile n (by omega) (by omega)
    have hload := hrebuilt.load_segment n hn.1 (by omega)
    exact ⟨file n, _, hfound, hread, hload, accounts_statsOf o.foldsCase n (file n)⟩

/-- A count file of the first order with a gram in two lines, which reaches the largest count, and
another one. One line is no text, one has no count, one has two tokens, and two are blank. -/
def oddLines : Files where
  home := [['w']]
  entries := [([['w']], .folder), ([['w'], CountFile.fileName 1], .file
    ([65, 98, 9, 53, 10] ++ [255, 10] ++ [32, 13, 10] ++ [98, 97, 100, 10] ++
      [97, 32, 98, 9, 49, 10] ++ [65, 66, 9, 49, 56, 52, 52, 54, 55, 52, 52, 48, 55, 51, 55, 48, 57,
        53, 53, 49, 54, 49, 53, 10] ++ [99, 9, 50, 10]))]

theorem into_accounts_oddLines :
    (⟨['.'], [], 1, 1, true⟩ : IndexOptions).validate = .ok () ∧ Sound Memory.empty ∧
      ∃ stats m', (into ⟨['.'], [], 1, 1, true⟩ (Moment.ofSeconds 0 0) 0 oddLines).run
          Memory.empty = (.ok stats, m') ∧
        stats.orders = [⟨1, 2, Count.largest, 3⟩] ∧
        ∀ st ∈ stats.orders, ∃ f seg,
          CountFile.ofOrder? oddLines ['.'] st.order = .ok f ∧ Accounts true f st seg := by
  have hvalid : (⟨['.'], [], 1, 1, true⟩ : IndexOptions).validate = .ok () := rfl
  have hmemory : Sound Memory.empty := Table.sorted_nil
  obtain ⟨stats, m', hrun, horders⟩ : ∃ stats m',
      (into ⟨['.'], [], 1, 1, true⟩ (Moment.ofSeconds 0 0) 0 oddLines).run Memory.empty =
        (.ok stats, m') ∧ stats.orders = [⟨1, 2, Count.largest, 3⟩] :=
    ⟨_, _, rfl, by decide⟩
  refine ⟨hvalid, hmemory, stats, m', hrun, horders, fun st hst => ?_⟩
  obtain ⟨f, seg, hfound, -, -, haccounts⟩ := (into_accounts hvalid hmemory hrun).2 st hst
  exact ⟨f, seg, hfound, haccounts⟩

end Indexer

end Kompositum

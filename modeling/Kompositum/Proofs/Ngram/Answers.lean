import Kompositum.Proofs.Ngram.Corpus
import Kompositum.Proofs.Ngram.Sources

/-!
# An index answers like its corpus

An index is built from the count files of a corpus. Whichever orders have segments, it answers what
the rows of these files say.

* `Index.find_eq`, `Index.freq_eq`: what an index answers when its sources serve a corpus.
* `Indexer.ofStore_eq`: the finder for the index in a storage.
* `Indexer.ofStore_into`: the finder for the index that a run of the indexer leaves behind.
* `Indexer.into_answers`: a finder for the index of a corpus answers like the corpus.
-/

namespace Kompositum

/-- **A description that is read back** as it was written. -/
def IndexMeta.ReadsBack (m : IndexMeta) : Prop :=
  (Json.parse? (Utf8.encode m.toJson.pretty)).bind ofJson? = some m

/-- A description that is read back is loaded. -/
theorem IndexMeta.load_of_readsBack {σ : Type} [Store σ] {s : σ} {m : IndexMeta}
    (hread : Store.read s fileName = .ok (Utf8.encode m.toJson.pretty)) (hback : m.ReadsBack) :
    load s = .ok m := by
  unfold load
  rw [hread]
  simp only
  rw [hback]

namespace Index

/-! ## What an index answers -/

variable {i : Index} {c : Corpus} {source : Nat → GramSource}

/-- **Finding in an index** is scanning all count files. -/
theorem find_eq (hfold : i.about.foldsCase = c.foldsCase)
    (hsources : i.sources = (List.range' 1 c.maxOrder).map fun n => (n, source n))
    (hserves : ∀ n, (source n).Serves c.foldsCase n (c.file n)) (query : Text) :
    i.find query = c.scan query := by
  have hfind : (fun n => (source n).find c.foldsCase (Ngram.tokenize c.foldsCase query) n) =
      fun n => (c.file n).find n (Ngram.tokenize c.foldsCase query) c.foldsCase :=
    funext fun n => (hserves n).find_eq _
  unfold find Corpus.scan
  rw [hsources, hfold]
  simp only [List.flatMap_map, hfind]

/-- **The frequency of a gram in an index** is the one in the corpus. -/
theorem freq_eq (hfold : i.about.foldsCase = c.foldsCase)
    (hsources : i.sources = (List.range' 1 c.maxOrder).map fun n => (n, source n))
    (hserves : ∀ n, (source n).Serves c.foldsCase n (c.file n)) (gram : Text) :
    i.freq gram = c.freq gram := by
  unfold freq Corpus.freq
  rw [hsources, hfold]
  simp only [lookup_map, List.mem_range'_1]
  by_cases hnil : Ngram.tokenize c.foldsCase gram = []
  · simp [hnil]
  · have hlen := List.length_pos_iff.2 hnil
    rw [if_neg (by simpa using hnil)]
    -- an order that is not indexed has no source
    by_cases hM : (Ngram.tokenize c.foldsCase gram).length ≤ c.maxOrder
    · rw [if_pos ⟨hlen, by omega⟩, if_pos ⟨hlen, hM⟩]
      exact (hserves _).freq_eq _ hnil rfl fun t ht => Ngram.isToken_of_mem_tokenize ht
    · rw [if_neg (by omega), if_neg (by omega)]

end Index

namespace Indexer

/-! ## The index in a storage -/

variable {σ : Type} [Store σ] {s : σ}

/-- The segment of an order is loaded as it was written. -/
theorem segment_statsOf {foldsCase : Bool} {n : Nat} {f : CountFile}
    (hread : Store.read s (Segment.fileName n) = .ok (segmentOf foldsCase n f).encode)
    (hdecode : Segment.decode n (segmentOf foldsCase n f).encode =
      .ok (segmentOf foldsCase n f)) :
    Index.segment s (statsOf foldsCase n f) = .ok (n, .segment (segmentOf foldsCase n f)) := by
  have horder : (statsOf foldsCase n f).order = n := rfl
  have hgrams : (statsOf foldsCase n f).grams = (segmentOf foldsCase n f).size := rfl
  have hload : Segment.load n s = .ok (segmentOf foldsCase n f) :=
    Segment.load_eq_ok_iff.2 ⟨_, hread, hdecode⟩
  unfold Index.segment
  rw [horder, hgrams, hload, ok_bind, if_neg (not_not_intro rfl)]
  rfl

variable (o : IndexOptions) (files : Files) (file : Nat → CountFile)

/-- The count file of an order as a finder comes upon it, by the absolute path of its folder. -/
def moved (n : Nat) : CountFile :=
  ⟨Path.join (Path.absolute files.homePath o.sourceDir) (CountFile.fileName n), (file n).content⟩

/-- Where the grams of an order are found: in its count file below the first order that has a
segment. -/
def source (n : Nat) : GramSource :=
  if n < o.minOrder then .counts (moved o files file n)
  else .segment (segmentOf o.foldsCase n (file n))

theorem serves_source (n : Nat) : (source o files file n).Serves o.foldsCase n (file n) := by
  unfold source
  split
  · exact GramSource.serves_counts _ _ _ _
  · exact GramSource.serves_segment _ _ _

variable {o files file} {now : Moment} {elapsed : Nat}

/-- The orders below the first segment, and those from it on, are all orders. -/
theorem map_source (hmin : 1 ≤ o.minOrder) (hmax : o.minOrder ≤ o.maxOrder) :
    (List.range' 1 (o.minOrder - 1)).map (fun n => (n, GramSource.counts (moved o files file n))) ++
        (List.range' o.minOrder (o.maxOrder + 1 - o.minOrder)).map
          (fun n => (n, GramSource.segment (segmentOf o.foldsCase n (file n)))) =
      (List.range' 1 o.maxOrder).map fun n => (n, source o files file n) := by
  -- cut the range of all orders at the first one that has a segment
  have hrange : List.range' 1 o.maxOrder =
      List.range' 1 (o.minOrder - 1) ++
        List.range' o.minOrder (o.maxOrder + 1 - o.minOrder) := by
    have hfirst : o.minOrder = 1 + (o.minOrder - 1) := by omega
    have hall : o.maxOrder = o.minOrder - 1 + (o.maxOrder + 1 - o.minOrder) := by omega
    conv => lhs; rw [hall]
    conv => rhs; rhs; arg 1; rw [hfirst]
    exact List.range'_append_1.symm
  rw [hrange, List.map_append]
  congr 1
  · refine List.map_congr_left fun n hn => ?_
    rw [List.mem_range'_1] at hn
    rw [source, if_pos (by omega)]
  · refine List.map_congr_left fun n hn => ?_
    rw [List.mem_range'_1] at hn
    rw [source, if_neg (by omega)]

/-- **The index in a storage** with its description and all of its segments. -/
theorem load_eq {later : Files} (hmin : 1 ≤ o.minOrder) (hmax : o.minOrder ≤ o.maxOrder)
    (hmeta : Store.read s IndexMeta.fileName =
      .ok (Utf8.encode (about o now files (built o elapsed file)).toJson.pretty))
    (hback : (about o now files (built o elapsed file)).ReadsBack)
    (hsegments : ∀ n, o.minOrder ≤ n → n ≤ o.maxOrder →
      Index.segment s (statsOf o.foldsCase n (file n)) =
        .ok (n, .segment (segmentOf o.foldsCase n (file n))))
    (hcounts : ∀ n, 1 ≤ n → n ≤ o.maxOrder →
      CountFile.ofOrder? later (Path.absolute files.homePath o.sourceDir) n =
        .ok (moved o files file n)) :
    Index.load later s = .ok ⟨about o now files (built o elapsed file),
      (List.range' 1 o.maxOrder).map fun n => (n, source o files file n)⟩ := by
  -- the description, the count files of the lower orders and the segments of all others
  have habout : IndexMeta.load s = .ok (about o now files (built o elapsed file)) :=
    IndexMeta.load_of_readsBack hmeta hback
  have hleft : CountFile.ofOrders? later (about o now files (built o elapsed file)).sourceDir 1
      ((about o now files (built o elapsed file)).minOrder - 1) = _ :=
    CountFile.ofOrders?_eq 1 (o.minOrder - 1) fun n h1 h2 => hcounts n h1 (by omega)
  have horders : (about o now files (built o elapsed file)).orders.mapM (Index.segment s) =
      .ok ((List.range' o.minOrder (o.maxOrder + 1 - o.minOrder)).map fun n =>
        (n, .segment (segmentOf o.foldsCase n (file n)))) := by
    have hmap : (about o now files (built o elapsed file)).orders =
        (List.range' o.minOrder (o.maxOrder + 1 - o.minOrder)).map fun n =>
          statsOf o.foldsCase n (file n) := rfl
    rw [hmap, List.mapM_map]
    refine mapM_eq_ok fun n hn => ?_
    rw [List.mem_range'_1] at hn
    exact hsegments n hn.1 (by omega)
  unfold Index.load
  rw [habout, ok_bind, hleft, ok_bind, horders, ok_bind, List.map_map]
  exact congrArg (fun l => Except.ok (Index.mk (about o now files (built o elapsed file)) l))
    (map_source hmin hmax)

/-- Whether the count files in a folder are the same in two states of the files. -/
def SameCounts (files later : Files) (dir : Text) (maxOrder : Nat) : Prop :=
  ∀ n, 1 ≤ n → n ≤ maxOrder → CountFile.ofOrder? later dir n = CountFile.ofOrder? files dir n

/-- **The finder for the index in a storage** with its description and the files of all of its
segments. -/
theorem ofStore_eq {later : Files} (hhome : files.HasHome) (hmin : 1 ≤ o.minOrder)
    (hmax : o.minOrder ≤ o.maxOrder) (horder : o.maxOrder < Record.wordBound)
    (hfile : ∀ n, 1 ≤ n → n ≤ o.maxOrder → CountFile.ofOrder? files o.sourceDir n = .ok (file n))
    (hfew : ∀ n, o.minOrder ≤ n → n ≤ o.maxOrder →
      (counts o.foldsCase n (file n)).length ≤ Segment.maxGrams)
    (hsegments : ∀ n, o.minOrder ≤ n → n ≤ o.maxOrder →
      Store.read s (Segment.fileName n) = .ok (segmentOf o.foldsCase n (file n)).encode)
    (hmeta : Store.read s IndexMeta.fileName =
      .ok (Utf8.encode (about o now files (built o elapsed file)).toJson.pretty))
    (hback : (about o now files (built o elapsed file)).ReadsBack)
    (hsame : SameCounts files later (Path.absolute files.homePath o.sourceDir) o.maxOrder)
    (location : Text) :
    Finder.ofStore later s location = .ok ⟨location, some ⟨about o now files (built o elapsed file),
      (List.range' 1 o.maxOrder).map fun n => (n, source o files file n)⟩⟩ := by
  -- every segment that was written is loaded again
  have hdecode (n : Nat) (h1 : o.minOrder ≤ n) (h2 : n ≤ o.maxOrder) :
      Index.segment s (statsOf o.foldsCase n (file n)) =
        .ok (n, .segment (segmentOf o.foldsCase n (file n))) :=
    segment_statsOf (hsegments n h1 h2) (decode_segmentOf (hfile n (by omega) h2)
      (Nat.lt_of_le_of_lt h2 horder) (hfew n h1 h2))
  -- the description names the folder of the count files by its absolute path
  have hcounts (n : Nat) (h1 : 1 ≤ n) (h2 : n ≤ o.maxOrder) :
      CountFile.ofOrder? later (Path.absolute files.homePath o.sourceDir) n =
        .ok (moved o files file n) :=
    (hsame n h1 h2).trans (CountFile.ofOrder?_absolute hhome (hfile n h1 h2))
  unfold Finder.ofStore
  rw [load_eq hmin hmax hmeta hback hdecode hcounts]
  rfl

/-! ## Every index of a corpus -/

/-- **A corpus that can be indexed**: its count files are in a folder, and neither its orders nor
the different grams of one are too many. -/
structure Indexable (c : Corpus) (files : Files) (dir : Text) : Prop where
  hasHome : files.HasHome
  file_eq : ∀ n, 1 ≤ n → n ≤ c.maxOrder → CountFile.ofOrder? files dir n = .ok (c.file n)
  order_lt : c.maxOrder < Record.wordBound
  few : ∀ n, 1 ≤ n → n ≤ c.maxOrder →
    ((c.file n).distinct c.foldsCase n).length ≤ Segment.maxGrams

/-- A corpus indexed from some order on. -/
def options (c : Corpus) (dir indexDir : Text) (minOrder : Nat) : IndexOptions :=
  ⟨dir, indexDir, minOrder, c.maxOrder, c.foldsCase⟩

variable {c : Corpus} {dir : Text}

/-- **A finder for the index of a corpus** opens as long as the description of the index is read
back and the count files stay the same. -/
theorem ofStore_into (h : Indexable c files dir) {minOrder : Nat} (hmin : 1 ≤ minOrder)
    (hmax : minOrder ≤ c.maxOrder) (indexDir : Text) (now : Moment) (elapsed : Nat) (m : Memory) :
    let o := options c dir indexDir minOrder
    ∃ m', (into o now elapsed files).run m = (.ok (built o elapsed c.file), m') ∧
      Store.read m' IndexMeta.fileName =
        .ok (Utf8.encode (about o now files (built o elapsed c.file)).toJson.pretty) ∧
      ((about o now files (built o elapsed c.file)).ReadsBack → ∀ (later : Files) (location : Text),
        SameCounts files later (Path.absolute files.homePath dir) c.maxOrder →
        Finder.ofStore later m' location = .ok ⟨location, some ⟨about o now files (built o elapsed c.file),
          (List.range' 1 c.maxOrder).map fun n => (n, source o files c.file n)⟩⟩) := by
  intro o
  have hfew (n : Nat) (h1 : 1 ≤ n) (h2 : n ≤ c.maxOrder) :
      (counts o.foldsCase n (c.file n)).length ≤ Segment.maxGrams :=
    Nat.le_trans length_counts_le (h.few n h1 h2)
  obtain ⟨m', hrun, hsegments, hmeta⟩ := run_into (o := o) now elapsed hmin hmax h.file_eq hfew m
  refine ⟨m', hrun, hmeta, fun hback later location hsame => ?_⟩
  exact ofStore_eq h.hasHome hmin hmax h.order_lt h.file_eq
    (fun n h1 h2 => hfew n (Nat.le_trans hmin h1) h2) hsegments hmeta hback hsame location

/-- **Every index of a corpus answers like the corpus**, whichever orders have segments and whatever
was in memory before: the indexer succeeds, and as long as the description of the index is read back
and the count files stay the same, there is a finder that finds the grams of the corpus with their
frequencies. -/
theorem into_answers (h : Indexable c files dir) :
    ∃ find : Text → List Gram, (∀ query, c.Finds query (find query)) ∧
      ∀ minOrder, 1 ≤ minOrder → minOrder ≤ c.maxOrder →
        ∀ (indexDir : Text) (now : Moment) (elapsed : Nat) (m : Memory),
        let o := options c dir indexDir minOrder
        ∃ stats m', (into o now elapsed files).run m = (.ok stats, m') ∧
          ((about o now files stats).ReadsBack → ∀ (later : Files) (location : Text),
            SameCounts files later (Path.absolute files.homePath dir) c.maxOrder →
            ∃ finder, Finder.ofStore later m' location = .ok finder ∧
              (∀ query, finder.find query = .ok (find query)) ∧
              ∀ gram, finder.freq gram = .ok (c.freq gram)) := by
  refine ⟨c.scan, c.finds_scan, fun minOrder hmin hmax indexDir now elapsed m => ?_⟩
  obtain ⟨m', hrun, -, hfinder⟩ := ofStore_into h hmin hmax indexDir now elapsed m
  have hserves := serves_source (options c dir indexDir minOrder) files c.file
  refine ⟨_, m', hrun, fun hback later location hsame =>
    ⟨_, hfinder hback later location hsame, fun query => ?_, fun gram => ?_⟩⟩
  · exact congrArg Except.ok (Index.find_eq rfl rfl hserves query)
  · exact congrArg Except.ok (Index.freq_eq rfl rfl hserves gram)

/-- The folder in which the program runs, with the count files of two orders. -/
def twoOrders : Files where
  home := [['w']]
  entries := [([['w']], .folder),
    ([['w'], CountFile.fileName 1], .file [97, 9, 53, 10, 97, 32, 98, 9, 51, 10]),
    ([['w'], CountFile.fileName 2], .file [65, 32, 98, 9, 49, 10])]

/-- The corpus of these files: the first one counts `a` five times, and `a b` three times although
it is of another order; the second one counts `A b` once. -/
def ofTwoOrders : Corpus where
  file n := ⟨Path.join ['.'] (CountFile.fileName n),
    if n = 1 then [97, 9, 53, 10, 97, 32, 98, 9, 51, 10] else [65, 32, 98, 9, 49, 10]⟩
  maxOrder := 2
  foldsCase := true

theorem indexable_ofTwoOrders : Indexable ofTwoOrders twoOrders ['.'] := by
  have hcases : ∀ n, 1 ≤ n → n ≤ ofTwoOrders.maxOrder → n = 1 ∨ n = 2 := by
    intro n h1 h2
    have hM : ofTwoOrders.maxOrder = 2 := rfl
    omega
  refine ⟨⟨fun n hn => ?_, fun p hp => ?_⟩, fun n h1 h2 => ?_, by decide, fun n h1 h2 => ?_⟩
  · obtain rfl := List.mem_singleton.1 hn
    exact ⟨by decide, by decide, by decide, by decide⟩
  · rcases List.prefix_cons_iff.1 hp with rfl | ⟨q, rfl, hq⟩
    · rfl
    · obtain rfl := List.prefix_nil.1 hq
      rfl
  · rcases hcases n h1 h2 with rfl | rfl <;> rfl
  · rcases hcases n h1 h2 with rfl | rfl <;> decide

/-- An index of this corpus whose first order is left to its count file. -/
theorem into_answers_twoOrders :
    Indexable ofTwoOrders twoOrders ['.'] ∧
      ∃ find : Text → List Gram, (∀ query, ofTwoOrders.Finds query (find query)) ∧
        ∃ stats m' finder,
          (into (options ofTwoOrders ['.'] [] 2) (Moment.ofSeconds 0 0) 0 twoOrders).run
            Memory.empty = (.ok stats, m') ∧
          Finder.ofStore twoOrders m' [] = .ok finder ∧
          (∀ query, finder.find query = .ok (find query)) ∧
          ∀ gram, finder.freq gram = .ok (ofTwoOrders.freq gram) := by
  obtain ⟨find, hfinds, hinto⟩ := into_answers indexable_ofTwoOrders
  obtain ⟨stats, m', hrun, hfinder⟩ := hinto 2 (by decide) (by decide) [] (Moment.ofSeconds 0 0) 0
    Memory.empty
  -- the one result of the run, whose description is read back by evaluation
  have hstats : ((into (options ofTwoOrders ['.'] [] 2) (Moment.ofSeconds 0 0) 0 twoOrders).run
      Memory.empty).1 = .ok (built (options ofTwoOrders ['.'] [] 2) 0 ofTwoOrders.file) := rfl
  rw [hrun] at hstats
  obtain rfl : stats = _ := Except.ok.inj hstats
  have hback : (about (options ofTwoOrders ['.'] [] 2) (Moment.ofSeconds 0 0) twoOrders
      (built (options ofTwoOrders ['.'] [] 2) 0 ofTwoOrders.file)).ReadsBack := by
    unfold IndexMeta.ReadsBack
    decide +kernel
  obtain ⟨finder, hload, hfind, hfreq⟩ := hfinder hback twoOrders [] fun n _ _ => rfl
  exact ⟨indexable_ofTwoOrders, find, hfinds, _, m', finder, hrun, hload, hfind, hfreq⟩

end Indexer

end Kompositum

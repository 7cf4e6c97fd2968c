import Kompositum.Proofs.Json.RoundTrip
import Kompositum.Proofs.Ngram.Segment.Storage
import Kompositum.Proofs.Ngram.Totals
import Kompositum.Proofs.Time.Moment

/-!
# The description of an index

The description of an index is kept in JSON. It is read as it was written.

* `IndexMeta.Fits`: a description of which every part has its place.
* `IndexMeta.ofJson?_toJson`: a description there and back.
-/

namespace Kompositum

namespace Json

theorem nat?_ofNat_eq (n : Nat) :
    (ofNat n).nat? = if n ≤ Count.largest then some n else none := by
  change (Count.ofDigits? (Text.ofNat n)).filter (fun k => decide (k ≤ Count.largest)) = _
  rw [Count.ofDigits?_ofNat, Option.filter_some]
  simp only [decide_eq_true_eq]

theorem nat?_ofNat {n : Nat} (h : n ≤ Count.largest) : (ofNat n).nat? = some n := by
  rw [nat?_ofNat_eq, if_pos h]

theorem nat?_ofNat_of_lt {n : Nat} (h : Count.largest < n) : (ofNat n).nat? = none := by
  rw [nat?_ofNat_eq, if_neg (Nat.not_le.2 h)]

/-- **A list** whose items are read as they were written. -/
theorem list?_map {α : Type} {f : Json → Option α} {g : α → Json} {l : List α}
    (h : ∀ a ∈ l, f (g a) = some a) : (list (l.map g)).list? f = some l := by
  change (l.map g).mapM f = some l
  induction l with
  | nil => rfl
  | cons a l ih =>
    rw [List.map_cons, List.mapM_cons, h a List.mem_cons_self,
      ih fun b hb => h b (List.mem_cons_of_mem a hb)]
    rfl

end Json

namespace OrderStats

/-- **Statistics of numbers below 2⁶⁴.** -/
structure Fits (s : OrderStats) : Prop where
  order_le : s.order ≤ Count.largest
  grams_le : s.grams ≤ Count.largest
  totalFreq_le : s.totalFreq ≤ Count.largest
  malformedLines_le : s.malformedLines ≤ Count.largest

theorem isPlain_toJson (s : OrderStats) : Json.IsPlain s.toJson := by
  unfold toJson
  refine .object fun f hf => ?_
  simp only [List.mem_cons, List.not_mem_nil, or_false] at hf
  rcases hf with rfl | rfl | rfl | rfl <;> exact .ofNat _

/-- **Statistics** are read as they were written. -/
theorem ofJson?_toJson {s : OrderStats} (h : s.Fits) : ofJson? s.toJson = some s := by
  have hslots : s.toJson.slots? ["order", "grams", "total_freq", "malformed_lines"] =
      some [.given (.ofNat s.order), .given (.ofNat s.grams), .given (.ofNat s.totalFreq),
        .given (.ofNat s.malformedLines)] := rfl
  unfold ofJson?
  rw [hslots]
  simp only [Slot.required?, Option.bind_eq_bind, Option.bind_some, Json.nat?_ofNat h.order_le,
    Json.nat?_ofNat h.grams_le, Json.nat?_ofNat h.totalFreq_le, Json.nat?_ofNat h.malformedLines_le]
  rfl

end OrderStats

namespace IndexMeta

/-- **A description of which every part has its place**: numbers below 2⁶⁴ or 2³², and a moment that
exists. -/
structure Fits (m : IndexMeta) : Prop where
  version_lt : m.version < Record.wordBound
  minOrder_le : m.minOrder ≤ Count.largest
  maxOrder_le : m.maxOrder ≤ Count.largest
  orders_fit : ∀ s ∈ m.orders, s.Fits
  totalUnigrams_le : m.totalUnigrams ≤ Count.largest
  createdAt_proper : m.createdAt.IsProper

theorem isPlain_toJson (m : IndexMeta) : Json.IsPlain m.toJson := by
  have horders : Json.IsPlain (.list (m.orders.map OrderStats.toJson)) := by
    refine .list fun j hj => ?_
    obtain ⟨s, -, rfl⟩ := List.mem_map.1 hj
    exact s.isPlain_toJson
  unfold toJson
  refine .object fun f hf => ?_
  simp only [List.mem_cons, List.not_mem_nil, or_false] at hf
  rcases hf with rfl | rfl | rfl | rfl | rfl | rfl | rfl | rfl
  · exact .ofNat _
  · exact .ofNat _
  · exact .ofNat _
  · exact .truth _
  · exact horders
  · exact .ofNat _
  · exact .text _
  · exact .text _

theorem slots?_toJson (m : IndexMeta) :
    m.toJson.slots? ["version", "min_order", "max_order", "lowercase", "orders", "total_unigrams",
        "created_at", "source_dir"] =
      some [.given (.ofNat m.version), .given (.ofNat m.minOrder), .given (.ofNat m.maxOrder),
        .given (.truth m.foldsCase), .given (.list (m.orders.map OrderStats.toJson)),
        .given (.ofNat m.totalUnigrams), .given (.text (m.createdAt.render ['Z'])),
        .given (.text m.sourceDir)] := rfl

/-- **A description** is read as it was written. -/
theorem ofJson?_toJson {m : IndexMeta} (h : m.Fits) : ofJson? m.toJson = some m := by
  have hversion : version? (.ofNat m.version) = some m.version := by
    have hle : m.version ≤ Count.largest := Nat.le_trans (Nat.le_of_lt h.version_lt) (by decide)
    unfold version?
    rw [Json.nat?_ofNat hle, Option.filter_some, if_pos (decide_eq_true h.version_lt)]
  have horders : (Json.list (m.orders.map OrderStats.toJson)).list? OrderStats.ofJson? =
      some m.orders := Json.list?_map fun s hs => OrderStats.ofJson?_toJson (h.orders_fit s hs)
  have hmoment := Moment.ofText?_render h.createdAt_proper
  have htext (t : Text) : (Json.text t).text? = some t := rfl
  unfold ofJson?
  rw [slots?_toJson]
  simp only [Slot.required?, Option.bind_eq_bind, Option.bind_some, hversion,
    Json.nat?_ofNat h.minOrder_le, Json.nat?_ofNat h.maxOrder_le, horders,
    Json.nat?_ofNat h.totalUnigrams_le, htext, hmoment]
  rfl

/-- **A description that fits** is read back. -/
theorem Fits.readsBack {m : IndexMeta} (h : m.Fits) : m.ReadsBack := by
  unfold ReadsBack
  rw [Json.parse?_pretty m.isPlain_toJson, Option.bind_some, ofJson?_toJson h]

/-- What is loaded is what was saved. -/
theorem ofJson?_of_load {σ : Type} [Store σ] {s : σ} {m found : IndexMeta}
    (hread : Store.read s fileName = .ok (Utf8.encode m.toJson.pretty))
    (hload : load s = .ok found) : ofJson? m.toJson = some found := by
  unfold load at hload
  rw [hread] at hload
  simp only [Json.parse?_pretty m.isPlain_toJson, Option.bind_some] at hload
  cases hjson : ofJson? m.toJson with
  | none =>
    rw [hjson] at hload
    cases hload
  | some m' =>
    rw [hjson] at hload
    cases hload
    rfl

/-- A description of too many orders is not read. -/
theorem ofJson?_toJson_of_lt {m : IndexMeta} (h : Count.largest < m.maxOrder) :
    ofJson? m.toJson = none := by
  unfold ofJson?
  rw [slots?_toJson]
  simp only [Slot.required?, Option.bind_eq_bind, Option.bind_some, Json.nat?_ofNat_of_lt h,
    Option.bind_none, Option.bind_fun_none]

end IndexMeta

namespace Indexer

variable {o : IndexOptions} {files : Files} {file : Nat → CountFile} {now : Moment} {elapsed : Nat}

theorem fits_statsOf {foldsCase : Bool} {dir : Text} {n : Nat} {f : CountFile}
    (hfile : CountFile.ofOrder? files dir n = .ok f) (horder : n ≤ Count.largest)
    (hfew : (counts foldsCase n f).length ≤ Segment.maxGrams) :
    (statsOf foldsCase n f).Fits := by
  have hgrams : Segment.maxGrams ≤ Count.largest := by decide
  have hskipped := skipped_le foldsCase n f
  have hcontent := CountFile.length_content_le hfile
  have hlimit : Files.mapLimit + 1 ≤ Count.largest := by decide
  have htotal : (segmentOf foldsCase n f).totalFreq ≤ Count.largest := by
    rw [totalFreq_segmentOf]
    exact Nat.min_le_right _ _
  exact ⟨horder, Nat.le_trans hfew hgrams, htotal, by
    change skipped foldsCase n f ≤ Count.largest
    omega⟩

/-- **What an index says of itself** fits its description. -/
theorem fits_about (hmin : 1 ≤ o.minOrder) (hmax : o.minOrder ≤ o.maxOrder)
    (hlarge : o.maxOrder ≤ Count.largest) (hnow : now.IsProper)
    (hfile : ∀ n, 1 ≤ n → n ≤ o.maxOrder → CountFile.ofOrder? files o.sourceDir n = .ok (file n))
    (hfew : ∀ n, o.minOrder ≤ n → n ≤ o.maxOrder →
      (counts o.foldsCase n (file n)).length ≤ Segment.maxGrams) :
    (about o now files (built o elapsed file)).Fits := by
  have hversion : Segment.version < Record.wordBound := by decide
  refine ⟨hversion, Nat.le_trans hmax hlarge, hlarge, fun s hs => ?_, ?_, hnow⟩
  · obtain ⟨n, hn, rfl⟩ := List.mem_map.1 hs
    rw [List.mem_range'_1] at hn
    exact fits_statsOf (hfile n (by omega) (by omega)) (by omega) (hfew n hn.1 (by omega))
  · change (built o elapsed file).totalUnigrams ≤ Count.largest
    rw [totalUnigrams_built file hmin hmax]
    split <;> exact Nat.min_le_right _ _

/-- A segment whose order has no place in it is not read. -/
theorem segment_ne_ok {σ : Type} [Store σ] {s : σ} {foldsCase : Bool} {n : Nat} {f : CountFile}
    (hle : Record.wordBound ≤ n)
    (hread : Store.read s (Segment.fileName n) = .ok (segmentOf foldsCase n f).encode)
    (source : Nat × GramSource) : Index.segment s (statsOf foldsCase n f) ≠ .ok source := by
  have hdecode : Segment.decode n (segmentOf foldsCase n f).encode =
      .error (.otherOrder (n % Record.wordBound)) := Segment.decode_encode_of_le hle
  have horder : (statsOf foldsCase n f).order = n := rfl
  intro hsource
  rw [Index.segment, Segment.load, horder, hread, mapError_ok, ok_bind, hdecode] at hsource
  cases hsource

/-- **An index opens** only if its orders have a place in its segments. -/
theorem order_lt_of_ofStore {σ : Type} [Store σ] {s : σ} {later : Files} {location : Text}
    {finder : Finder} (hmin : 1 ≤ o.minOrder) (hmax : o.minOrder ≤ o.maxOrder)
    (hnow : now.IsProper)
    (hfile : ∀ n, 1 ≤ n → n ≤ o.maxOrder → CountFile.ofOrder? files o.sourceDir n = .ok (file n))
    (hfew : ∀ n, o.minOrder ≤ n → n ≤ o.maxOrder →
      (counts o.foldsCase n (file n)).length ≤ Segment.maxGrams)
    (hsegments : ∀ n, o.minOrder ≤ n → n ≤ o.maxOrder →
      Store.read s (Segment.fileName n) = .ok (segmentOf o.foldsCase n (file n)).encode)
    (hmeta : Store.read s IndexMeta.fileName =
      .ok (Utf8.encode (about o now files (built o elapsed file)).toJson.pretty))
    (hfinder : Finder.ofStore later s location = .ok finder) : o.maxOrder < Record.wordBound := by
  unfold Finder.ofStore at hfinder
  obtain ⟨i, hload, -⟩ := bind_eq_ok.1 hfinder
  unfold Index.load at hload
  obtain ⟨found, habout, hload⟩ := bind_eq_ok.1 hload
  obtain ⟨left, -, hload⟩ := bind_eq_ok.1 hload
  obtain ⟨sources, hsources, -⟩ := bind_eq_ok.1 hload
  have hjson := IndexMeta.ofJson?_of_load hmeta habout
  by_contra hle
  by_cases hlarge : o.maxOrder ≤ Count.largest
  · -- the description is read, but the last segment is not
    rw [IndexMeta.ofJson?_toJson (fits_about hmin hmax hlarge hnow hfile hfew)] at hjson
    obtain rfl := Option.some.inj hjson
    have hlast : statsOf o.foldsCase o.maxOrder (file o.maxOrder) ∈
        (about o now files (built o elapsed file)).orders :=
      List.mem_map.2 ⟨o.maxOrder, List.mem_range'_1.2 ⟨hmax, by omega⟩, rfl⟩
    have hmem := List.mem_map_of_mem (f := Index.segment s) hlast
    rw [mapM_eq_ok_iff.1 hsources] at hmem
    obtain ⟨source, -, hsource⟩ := List.mem_map.1 hmem
    exact segment_ne_ok (Nat.not_lt.1 hle) (hsegments o.maxOrder hmax (Nat.le_refl _)) _
      hsource.symm
  · rw [IndexMeta.ofJson?_toJson_of_lt (Nat.not_le.1 hlarge)] at hjson
    cases hjson

end Indexer

end Kompositum

import Kompositum.Proofs.Ngram.Description
import Kompositum.Proofs.Storage.Tabular

/-!
# Building an index anew

A storage may hold the segments of an earlier index. A run of the indexer takes them out before it
puts its own segments in, and touches no other file but the description of the index. If count files
are missing, it touches nothing at all.

* `Indexer.of_clear`: the segments of an earlier index are gone.
* `Indexer.of_indexOrders`: the segments of the orders that are indexed.
* `Indexer.Rebuilt`: what a run leaves behind in a storage.
* `Indexer.into_rebuilds`: a run leaves this behind, or the storage as it was.
-/

namespace Kompositum

open Kompositum.Path (IsName)

/-! ## Names of files -/

theorem IndexMeta.isName_fileName : IsName fileName := by decide

namespace Segment

theorem isFileName_fileName (n : Nat) : isFileName (fileName n) = true := by
  have hfirst : Text.stripPrefix? "order-" (fileName n) = some (Text.ofNat n ++ ".seg".toList) :=
    Text.stripPrefix?_eq_some_iff.2 (List.append_assoc _ _ _)
  have hlast : Text.stripSuffix? ".seg" (fileName n) = some ("order-".toList ++ Text.ofNat n) :=
    Text.stripSuffix?_eq_some_iff.2 rfl
  unfold isFileName Text.startsWith Text.endsWith
  rw [hfirst, hlast]
  rfl

theorem not_isFileName_meta : isFileName IndexMeta.fileName = false := by decide

theorem ne_meta {name : Text} (h : isFileName name = true) : name ≠ IndexMeta.fileName := by
  rintro rfl
  rw [not_isFileName_meta] at h
  cases h

/-- The name of a segment file is one that a file may have. -/
theorem isName_fileName (n : Nat) : IsName (fileName n) := by
  have hhead : (fileName n).head? = some 'o' := by
    have hfirst : "order-".toList.head? = some 'o' := by decide
    unfold fileName
    rw [List.append_assoc, List.head?_append, hfirst, Option.some_or]
  have hne {t : Text} (ht : t.head? ≠ some 'o') : fileName n ≠ t := fun heq => ht (heq ▸ hhead)
  refine ⟨hne (by decide), hne (by decide), hne (by decide), fun hslash => ?_⟩
  rcases List.mem_append.1 hslash with hslash | hend
  · rcases List.mem_append.1 hslash with hfirst | hdigit
    · exact absurd hfirst (by decide)
    · exact Text.not_mem_ofNat rfl n hdigit
  · exact absurd hend (by decide)

end Segment

theorem IndexOptions.validate_eq_ok_iff {o : IndexOptions} :
    o.validate = .ok () ↔ 1 ≤ o.minOrder ∧ o.minOrder ≤ o.maxOrder := by
  unfold validate
  by_cases hzero : o.minOrder = 0
  · rw [if_pos hzero]
    simp [hzero]
  · rw [if_neg hzero]
    by_cases hrev : o.maxOrder < o.minOrder
    · rw [if_pos hrev]
      constructor
      · intro h
        cases h
      · rintro ⟨-, hle⟩
        omega
    · rw [if_neg hrev]
      exact ⟨fun _ => ⟨by omega, by omega⟩, fun _ => rfl⟩

namespace Indexer

/-- A step that succeeds in changing the storage. -/
theorem of_change {σ : Type} {f : σ → Except StoreFault σ} {s s' : σ}
    (h : (change fun st => (f st).mapError Error.store).run s = (.ok (), s')) : f s = .ok s' := by
  have hchange := run_change_eq_ok.1 h
  exact mapError_eq_ok_iff.1 hchange

open Store.Tabular (Sound Admits)

variable {σ : Type} [Store σ] [Store.Tabular σ] {s s' : σ}

/-! ## What the steps of a run leave behind -/

theorem admits_fileName (n : Nat) : Admits σ (Segment.fileName n) :=
  Store.Tabular.admits_of_isName (Segment.isName_fileName n)

theorem admits_meta : Admits σ IndexMeta.fileName :=
  Store.Tabular.admits_of_isName IndexMeta.isName_fileName

/-- **The segments of an earlier index** are gone; all other files are as they were. -/
theorem of_clear {names : List Text} (hs : Sound s) (hnames : ∀ n ∈ names, Admits σ n)
    (h : (clear names).run s = (.ok (), s')) :
    Sound s' ∧
      (∀ n ∈ names, Segment.isFileName n = true → ∀ content, Store.read s' n ≠ .ok content) ∧
      ∀ n, Admits σ n → ¬(n ∈ names ∧ Segment.isFileName n = true) →
        Store.read s' n = Store.read s n := by
  induction names generalizing s with
  | nil =>
    cases h
    exact ⟨hs, fun n hn => absurd hn List.not_mem_nil, fun n _ _ => rfl⟩
  | cons name names ih =>
    have hrest (n : Text) (hn : n ∈ names) := hnames n (List.mem_cons_of_mem name hn)
    have hnot {n : Text} (h : ¬(n ∈ name :: names ∧ Segment.isFileName n = true)) :
        ¬(n ∈ names ∧ Segment.isFileName n = true) :=
      fun h' => h ⟨List.mem_cons_of_mem name h'.1, h'.2⟩
    unfold clear at h
    by_cases hname : Segment.isFileName name = true
    · rw [if_pos hname, run_bind_eq_ok] at h
      obtain ⟨⟨⟩, s₁, hdelete, hclear⟩ := h
      obtain ⟨hs₁, hgone, hother⟩ :=
        Store.Tabular.of_delete hs (hnames name List.mem_cons_self) (of_change hdelete)
      obtain ⟨hs', hgone', hother'⟩ := ih hs₁ hrest hclear
      refine ⟨hs', fun n hn hfile => ?_, fun n hn hkept => ?_⟩
      · by_cases hmem : n ∈ names
        · exact hgone' n hmem hfile
        · -- the first name, which is none of the others
          have hadmits := hnames n hn
          obtain rfl : n = name := (List.mem_cons.1 hn).resolve_right hmem
          rw [hother' n hadmits fun h => hmem h.1]
          exact hgone
      · have hne : n ≠ name := by
          rintro rfl
          exact hkept ⟨List.mem_cons_self, hname⟩
        rw [hother' n hn (hnot hkept), hother n hn hne]
    · rw [if_neg hname] at h
      obtain ⟨hs', hgone, hother⟩ := ih hs hrest h
      refine ⟨hs', fun n hn hfile => ?_, fun n hn hkept => hother n hn (hnot hkept)⟩
      rcases List.mem_cons.1 hn with rfl | hn
      · exact absurd hfile hname
      · exact hgone n hn hfile

/-- **One order**: its segment is there, and all other files are as they were. -/
theorem of_indexOrder {foldsCase : Bool} {n : Nat} {f : CountFile} {stats : OrderStats}
    (hs : Sound s) (h : (indexOrder foldsCase n f).run s = (.ok stats, s')) :
    Sound s' ∧ (counts foldsCase n f).length ≤ Segment.maxGrams ∧ stats = statsOf foldsCase n f ∧
      Store.read s' (Segment.fileName n) = .ok (segmentOf foldsCase n f).encode ∧
      ∀ m, Admits σ m → m ≠ Segment.fileName n → Store.read s' m = Store.read s m := by
  unfold indexOrder at h
  rw [run_bind_eq_ok] at h
  obtain ⟨segment, s₁, hlift, h⟩ := h
  obtain ⟨hsegment, rfl⟩ := run_lift_eq_ok.1 hlift
  obtain ⟨hfew, hbuilt⟩ := segment_eq_ok_iff.1 hsegment
  obtain rfl : segment = segmentOf foldsCase n f := hbuilt
  rw [run_bind_eq_ok] at h
  obtain ⟨⟨⟩, s₂, hwrite, h⟩ := h
  obtain ⟨hstats, rfl⟩ := Prod.mk.inj h
  have hsave := Segment.save_eq_ok_iff.1 (run_change_eq_ok.1 hwrite)
  obtain ⟨hs', hread⟩ := Store.Tabular.of_write hs (admits_fileName n) hsave
  refine ⟨hs', hfew, (Except.ok.inj hstats).symm, ?_, fun m hm hne => ?_⟩
  · rw [hread _ (admits_fileName n), if_pos rfl]
  · rw [hread m hm, if_neg hne]

/-- **Some orders, one after the other.** -/
theorem of_indexOrders {foldsCase : Bool} {file : Nat → CountFile} {ns : List Nat}
    {orders : List OrderStats} (hnodup : ns.Nodup) (hs : Sound s)
    (h : (indexOrders foldsCase (ns.map fun n => (n, file n))).run s = (.ok orders, s')) :
    Sound s' ∧ (∀ n ∈ ns, (counts foldsCase n (file n)).length ≤ Segment.maxGrams) ∧
      orders = ns.map (fun n => statsOf foldsCase n (file n)) ∧
      (∀ n ∈ ns,
        Store.read s' (Segment.fileName n) = .ok (segmentOf foldsCase n (file n)).encode) ∧
      ∀ m, Admits σ m → (∀ n ∈ ns, m ≠ Segment.fileName n) →
        Store.read s' m = Store.read s m := by
  induction ns generalizing s orders with
  | nil =>
    cases h
    exact ⟨hs, fun n hn => absurd hn List.not_mem_nil, rfl,
      fun n hn => absurd hn List.not_mem_nil, fun m _ _ => rfl⟩
  | cons n ns ih =>
    obtain ⟨hn, hns⟩ := List.nodup_cons.1 hnodup
    rw [List.map_cons, indexOrders, run_bind_eq_ok] at h
    obtain ⟨stats, s₁, hfirst, h⟩ := h
    rw [run_bind_eq_ok] at h
    obtain ⟨rest, s₂, hrest, h⟩ := h
    obtain ⟨horders, rfl⟩ := Prod.mk.inj h
    obtain ⟨hs₁, hfew, rfl, hread, hother⟩ := of_indexOrder hs hfirst
    obtain ⟨hs', hfew', rfl, hread', hother'⟩ := ih hns hs₁ hrest
    refine ⟨hs', List.forall_mem_cons.2 ⟨hfew, hfew'⟩, (Except.ok.inj horders).symm,
      fun k hk => ?_, fun m hm hne => ?_⟩
    · rcases List.mem_cons.1 hk with rfl | hk
      · -- the later orders have files of other names
        have hne (j : Nat) (hj : j ∈ ns) : Segment.fileName k ≠ Segment.fileName j := fun heq =>
          hn (Segment.fileName_inj heq ▸ hj)
        rw [hother' _ (admits_fileName k) hne, hread]
      · exact hread' k hk
    · rw [hother' m hm fun k hk => hne k (List.mem_cons_of_mem n hk),
        hother m hm (hne n List.mem_cons_self)]

/-! ## A run -/

/-- **What a run leaves behind**: the segments of its own orders and no others, a description that
names these orders, both of which are loaded as they were saved, and all other files as they
were. -/
structure Rebuilt (o : IndexOptions) (now : Moment) (elapsed : Nat) (files : Files)
    (file : Nat → CountFile) (s : σ) (stats : IndexStats) (s' : σ) : Prop where
  sound : Sound s'
  stats_eq : stats = built o elapsed file
  few : ∀ n, o.minOrder ≤ n → n ≤ o.maxOrder →
    (counts o.foldsCase n (file n)).length ≤ Segment.maxGrams
  mem_names_iff : ∀ name, Segment.isFileName name = true →
    (name ∈ Store.names s' ↔ ∃ n, o.minOrder ≤ n ∧ n ≤ o.maxOrder ∧ name = Segment.fileName n)
  read_segment : ∀ n, o.minOrder ≤ n → n ≤ o.maxOrder →
    Store.read s' (Segment.fileName n) = .ok (segmentOf o.foldsCase n (file n)).encode
  load_segment : ∀ n, o.minOrder ≤ n → n ≤ o.maxOrder → n < Record.wordBound →
    Segment.load n s' = .ok (segmentOf o.foldsCase n (file n))
  read_meta : Store.read s' IndexMeta.fileName =
    .ok (Utf8.encode (about o now files stats).toJson.pretty)
  load_meta : now.IsProper → o.maxOrder ≤ Count.largest →
    IndexMeta.load s' = .ok (about o now files stats)
  isIndexed_iff : ∀ n,
    (about o now files stats).isIndexed n = true ↔ o.minOrder ≤ n ∧ n ≤ o.maxOrder
  other : ∀ name, Segment.isFileName name = false → name ≠ IndexMeta.fileName →
    (name ∈ Store.names s' ↔ name ∈ Store.names s) ∧
      (Admits σ name → Store.read s' name = Store.read s name)

/-- A description names the orders that have been indexed. -/
theorem isIndexed_built {o : IndexOptions} {elapsed : Nat} (now : Moment) (files : Files)
    (file : Nat → CountFile) (n : Nat) :
    (about o now files (built o elapsed file)).isIndexed n = true ↔ o.minOrder ≤ n ∧ n ≤ o.maxOrder := by
  have horders : (about o now files (built o elapsed file)).orders =
      (List.range' o.minOrder (o.maxOrder + 1 - o.minOrder)).map fun n =>
        statsOf o.foldsCase n (file n) := rfl
  unfold IndexMeta.isIndexed
  rw [horders, List.any_map, List.any_eq_true]
  constructor
  · rintro ⟨k, hk, heq⟩
    obtain rfl : k = n := eq_of_beq heq
    rw [List.mem_range'_1] at hk
    omega
  · rintro ⟨h1, h2⟩
    exact ⟨n, List.mem_range'_1.2 ⟨h1, by omega⟩, beq_self_eq_true n⟩

/-- The run once all count files are there: those of the lower orders, and those of the orders that
are indexed. -/
def rebuild (o : IndexOptions) (now : Moment) (elapsed : Nat) (files : Files)
    (left sources : List (Nat × CountFile)) : Work σ IndexStats := do
  clear (Store.names (← get))
  let orders ← indexOrders o.foldsCase sources
  let stats : IndexStats := ⟨orders, totalUnigrams left orders, elapsed⟩
  change (about o now files stats).save
  return stats

omit [Store.Tabular σ] in
theorem into_eq (o : IndexOptions) (now : Moment) (elapsed : Nat) (files : Files) :
    (into o now elapsed files : Work σ IndexStats) = (do
      let left ← CountFile.ofOrders? files o.sourceDir 1 (o.minOrder - 1)
      let sources ← CountFile.ofOrders? files o.sourceDir o.minOrder (o.maxOrder + 1 - o.minOrder)
      rebuild o now elapsed files left sources) := rfl

/-- The count files of some orders. -/
def listed (file : Nat → CountFile) (first k : Nat) : List (Nat × CountFile) :=
  (List.range' first k).map fun n => (n, file n)

/-- **What a run has done to each file** when it has succeeded: the segments and the description are
written, all other segments have been deleted, and nothing else has been touched. -/
theorem of_rebuild {o : IndexOptions} {now : Moment} {elapsed : Nat} {files : Files}
    {file : Nat → CountFile} {stats : IndexStats} (hs : Sound s)
    (h : (rebuild o now elapsed files (listed file 1 (o.minOrder - 1))
      (listed file o.minOrder (o.maxOrder + 1 - o.minOrder))).run s = (.ok stats, s')) :
    Sound s' ∧ stats = built o elapsed file ∧
      (∀ n, o.minOrder ≤ n → n ≤ o.maxOrder →
        (counts o.foldsCase n (file n)).length ≤ Segment.maxGrams ∧
        Store.read s' (Segment.fileName n) = .ok (segmentOf o.foldsCase n (file n)).encode) ∧
      Store.read s' IndexMeta.fileName =
        .ok (Utf8.encode (about o now files stats).toJson.pretty) ∧
      (∀ name, Admits σ name → Segment.isFileName name = true →
        (∀ n, o.minOrder ≤ n → n ≤ o.maxOrder → name ≠ Segment.fileName n) →
          ∀ content, Store.read s' name ≠ .ok content) ∧
      ∀ name, Admits σ name → Segment.isFileName name = false → name ≠ IndexMeta.fileName →
        Store.read s' name = Store.read s name := by
  unfold rebuild at h
  rw [run_bind (run_get _), run_bind_eq_ok] at h
  obtain ⟨⟨⟩, s₁, hclear, h⟩ := h
  rw [run_bind_eq_ok] at h
  obtain ⟨orders, s₂, horders, h⟩ := h
  rw [run_bind_eq_ok] at h
  obtain ⟨⟨⟩, s₃, hsave, h⟩ := h
  obtain ⟨hstats, rfl⟩ := Prod.mk.inj h
  have hnames (n : Text) (hn : n ∈ Store.names s) : Admits σ n :=
    ((Store.Tabular.mem_names_iff hs).1 hn).1
  obtain ⟨hs₁, hgone, hkept⟩ := of_clear hs hnames hclear
  obtain ⟨hs₂, hfew, rfl, hsegment, hother⟩ := of_indexOrders List.nodup_range' hs₁ horders
  obtain ⟨hs₃, hread⟩ := Store.Tabular.of_write hs₂ admits_meta (of_change hsave)
  obtain rfl : built o elapsed file = stats := Except.ok.inj hstats
  have hrange (n : Nat) : n ∈ List.range' o.minOrder (o.maxOrder + 1 - o.minOrder) ↔
      o.minOrder ≤ n ∧ n ≤ o.maxOrder := by
    rw [List.mem_range'_1]
    omega
  -- a file of another name is as the clearing has left it
  have hleft (name : Text) (hname : Admits σ name) (hmeta : name ≠ IndexMeta.fileName)
      (hne : ∀ n, o.minOrder ≤ n → n ≤ o.maxOrder → name ≠ Segment.fileName n) :
      Store.read s₃ name = Store.read s₁ name := by
    rw [hread name hname, if_neg hmeta]
    exact hother name hname fun n hn => hne n ((hrange n).1 hn).1 ((hrange n).1 hn).2
  refine ⟨hs₃, rfl, fun n h1 h2 => ⟨hfew n ((hrange n).2 ⟨h1, h2⟩), ?_⟩, ?_,
    fun name hname hseg hne content hok => ?_, fun name hname hseg hmeta => ?_⟩
  · rw [hread _ (admits_fileName n), if_neg (Segment.fileName_ne n)]
    exact hsegment n ((hrange n).2 ⟨h1, h2⟩)
  · rw [hread _ admits_meta, if_pos rfl]
    rfl
  · rw [hleft name hname (Segment.ne_meta hseg) hne] at hok
    -- it was there before, or it has never been there
    by_cases hold : name ∈ Store.names s
    · exact hgone name hold hseg content hok
    · rw [hkept name hname fun h => hold h.1] at hok
      exact hold ((Store.Tabular.mem_names_iff hs).2 ⟨hname, content, hok⟩)
  · have hne (n : Nat) : name ≠ Segment.fileName n := by
      rintro rfl
      rw [Segment.isFileName_fileName] at hseg
      cases hseg
    rw [hleft name hname hmeta fun n _ _ => hne n, hkept name hname fun h => ?_]
    rw [hseg] at h
    cases h.2

/-- **A run that succeeds once all count files are there.** -/
theorem rebuilt_of_rebuild {o : IndexOptions} {now : Moment} {elapsed : Nat} {files : Files}
    {file : Nat → CountFile} {stats : IndexStats} (hmin : 1 ≤ o.minOrder)
    (hmax : o.minOrder ≤ o.maxOrder)
    (hfile : ∀ n, 1 ≤ n → n ≤ o.maxOrder → CountFile.ofOrder? files o.sourceDir n = .ok (file n))
    (hs : Sound s)
    (h : (rebuild o now elapsed files (listed file 1 (o.minOrder - 1))
      (listed file o.minOrder (o.maxOrder + 1 - o.minOrder))).run s = (.ok stats, s')) :
    Rebuilt o now elapsed files file s stats s' := by
  obtain ⟨hs', rfl, hsegments, hread, hgone, hkept⟩ := of_rebuild hs h
  have hfew (n : Nat) (h1 : o.minOrder ≤ n) (h2 : n ≤ o.maxOrder) := (hsegments n h1 h2).1
  refine ⟨hs', rfl, hfew, fun name hseg => ?_, fun n h1 h2 => (hsegments n h1 h2).2,
    fun n h1 h2 hlt => ?_, hread, fun hnow hlarge => ?_, isIndexed_built now files file,
    fun name hseg hmeta => ?_⟩
  · rw [Store.Tabular.mem_names_iff hs']
    constructor
    · rintro ⟨hname, content, hok⟩
      by_contra hnone
      exact hgone name hname hseg (fun n h1 h2 heq => hnone ⟨n, h1, h2, heq⟩) content hok
    · rintro ⟨n, h1, h2, rfl⟩
      exact ⟨admits_fileName n, _, (hsegments n h1 h2).2⟩
  · exact Segment.load_eq_ok_iff.2 ⟨_, (hsegments n h1 h2).2,
      decode_segmentOf (hfile n (by omega) h2) hlt (hfew n h1 h2)⟩
  · exact IndexMeta.load_of_readsBack hread
      (fits_about hmin hmax hlarge hnow hfile hfew).readsBack
  · have hsame (hname : Admits σ name) := hkept name hname hseg hmeta
    refine ⟨?_, hsame⟩
    rw [Store.Tabular.mem_names_iff hs', Store.Tabular.mem_names_iff hs]
    exact and_congr_right fun hname => by rw [hsame hname]

/-- **A run that succeeds on certain count files** leaves their index behind. -/
theorem rebuilt_of_files {o : IndexOptions} {now : Moment} {elapsed : Nat} {files : Files}
    {file : Nat → CountFile} {stats : IndexStats} (hmin : 1 ≤ o.minOrder)
    (hmax : o.minOrder ≤ o.maxOrder)
    (hfile : ∀ n, 1 ≤ n → n ≤ o.maxOrder → CountFile.ofOrder? files o.sourceDir n = .ok (file n))
    (hs : Sound s) (h : (into o now elapsed files).run s = (.ok stats, s')) :
    Rebuilt o now elapsed files file s stats s' := by
  have hleft := CountFile.ofOrders?_eq 1 (o.minOrder - 1) fun n h1 h2 => hfile n h1 (by omega)
  have hsources := CountFile.ofOrders?_eq o.minOrder (o.maxOrder + 1 - o.minOrder) fun n h1 h2 =>
    hfile n (by omega) (by omega)
  rw [into_eq, run_bind (run_lift hleft s), run_bind (run_lift hsources s)] at h
  exact rebuilt_of_rebuild hmin hmax hfile hs h

/-- **A run that succeeds** has found all count files, and leaves its index behind. -/
theorem rebuilt_of_into {o : IndexOptions} {now : Moment} {elapsed : Nat} {files : Files}
    {stats : IndexStats} (hmin : 1 ≤ o.minOrder) (hmax : o.minOrder ≤ o.maxOrder) (hs : Sound s)
    (h : (into o now elapsed files).run s = (.ok stats, s')) :
    ∃ file : Nat → CountFile,
      (∀ n, 1 ≤ n → n ≤ o.maxOrder → CountFile.ofOrder? files o.sourceDir n = .ok (file n)) ∧
      Rebuilt o now elapsed files file s stats s' := by
  have hrun := h
  rw [into_eq, run_bind_eq_ok] at hrun
  obtain ⟨left, s₁, hlift, hrun⟩ := hrun
  obtain ⟨hleft, rfl⟩ := run_lift_eq_ok.1 hlift
  rw [run_bind_eq_ok] at hrun
  obtain ⟨sources, s₂, hlift', -⟩ := hrun
  obtain ⟨hsources, rfl⟩ := run_lift_eq_ok.1 hlift'
  let file (n : Nat) : CountFile :=
    (CountFile.ofOrder? files o.sourceDir n).toOption.getD ⟨[], []⟩
  have hfile (n : Nat) (h1 : 1 ≤ n) (h2 : n ≤ o.maxOrder) :
      CountFile.ofOrder? files o.sourceDir n = .ok (file n) := by
    obtain ⟨f, hf⟩ : ∃ f, CountFile.ofOrder? files o.sourceDir n = .ok f := by
      by_cases hlow : n < o.minOrder
      · exact CountFile.ofOrder?_of_ofOrders? hleft h1 (by omega)
      · exact CountFile.ofOrder?_of_ofOrders? hsources (by omega) (by omega)
    simp only [file, hf]
    rfl
  exact ⟨file, hfile, rebuilt_of_files hmin hmax hfile hs h⟩

omit [Store.Tabular σ] in
/-- **A run that does not find all count files** ends with the fault of one that is missing, and
leaves the storage as it was. -/
theorem into_of_missing {o : IndexOptions} (now : Moment) (elapsed : Nat) {files : Files} {n : Nat} {e : Error}
    (hmin : 1 ≤ o.minOrder) (hmax : o.minOrder ≤ o.maxOrder) (h1 : 1 ≤ n) (h2 : n ≤ o.maxOrder)
    (hn : CountFile.ofOrder? files o.sourceDir n = .error e) (s : σ) :
    ∃ k e', 1 ≤ k ∧ k ≤ o.maxOrder ∧ CountFile.ofOrder? files o.sourceDir k = .error e' ∧
      (into o now elapsed files).run s = (.error e', s) := by
  have hnot {first k : Nat} {l : List (Nat × CountFile)}
      (h : CountFile.ofOrders? files o.sourceDir first k = .ok l) :
      ¬(first ≤ n ∧ n < first + k) := by
    rintro ⟨hfirst, hlast⟩
    obtain ⟨f, hf⟩ := CountFile.ofOrder?_of_ofOrders? h hfirst hlast
    rw [hn] at hf
    cases hf
  rw [into_eq]
  cases hleft : CountFile.ofOrders? files o.sourceDir 1 (o.minOrder - 1) with
  | error e' =>
    obtain ⟨k, hk1, hk2, hk⟩ := CountFile.ofOrder?_of_ofOrders?_error hleft
    exact ⟨k, e', hk1, by omega, hk, run_bind_error (run_lift_error rfl s)⟩
  | ok left =>
    rw [run_bind (run_lift rfl s)]
    cases hsources : CountFile.ofOrders? files o.sourceDir o.minOrder
        (o.maxOrder + 1 - o.minOrder) with
    | error e' =>
      obtain ⟨k, hk1, hk2, hk⟩ := CountFile.ofOrder?_of_ofOrders?_error hsources
      exact ⟨k, e', by omega, by omega, hk, run_bind_error (run_lift_error rfl s)⟩
    | ok sources =>
      -- the missing file is among those of the lower orders, or among the others
      by_cases hlow : n < o.minOrder
      · exact absurd ⟨h1, by omega⟩ (hnot hleft)
      · exact absurd ⟨by omega, by omega⟩ (hnot hsources)

/-- **An index is built anew, or the storage stays as it was.** Without all count files a run fails
and changes nothing. If it succeeds, the segments in the storage are those of its own orders,
whichever were there before, and all files but these and the description are as they were. -/
theorem into_rebuilds {o : IndexOptions} (hvalid : o.validate = .ok ()) (now : Moment)
    (elapsed : Nat) (files : Files) (hs : Sound s) :
    (∀ n e, 1 ≤ n → n ≤ o.maxOrder → CountFile.ofOrder? files o.sourceDir n = .error e →
      ∃ e', (into o now elapsed files).run s = (.error e', s)) ∧
    ∀ stats s', (into o now elapsed files).run s = (.ok stats, s') →
      ∃ file : Nat → CountFile,
        (∀ n, 1 ≤ n → n ≤ o.maxOrder → CountFile.ofOrder? files o.sourceDir n = .ok (file n)) ∧
        Rebuilt o now elapsed files file s stats s' := by
  obtain ⟨hmin, hmax⟩ := IndexOptions.validate_eq_ok_iff.1 hvalid
  constructor
  · intro n e h1 h2 hn
    obtain ⟨-, e', -, -, -, hrun⟩ := into_of_missing now elapsed hmin hmax h1 h2 hn s
    exact ⟨e', hrun⟩
  · intro stats s' hrun
    exact rebuilt_of_into hmin hmax hs hrun

/-- A count file of the first order, and a folder. -/
def oneOrder : Files where
  home := [['w']]
  entries := [([['w']], .folder), ([['w'], CountFile.fileName 1], .file [97, 9, 53, 10]),
    ([['w'], ['i']], .folder)]

/-- Notes, and a segment of an earlier index. -/
def earlierIndex : Memory := ⟨[(['n'], [1]), (Segment.fileName 7, [2])], []⟩

/-- The first order is indexed in memory. A second one is not indexed in the folder: its count file
is missing. -/
theorem into_rebuilds_oneOrder :
    (⟨['.'], [], 1, 1, true⟩ : IndexOptions).validate = .ok () ∧ Sound earlierIndex ∧
      (∃ stats m' file,
        (into ⟨['.'], [], 1, 1, true⟩ (Moment.ofSeconds 0 0) 0 oneOrder).run earlierIndex =
          (.ok stats, m') ∧
        Rebuilt ⟨['.'], [], 1, 1, true⟩ (Moment.ofSeconds 0 0) 0 oneOrder file earlierIndex
          stats m') ∧
      (⟨['.'], [], 1, 2, true⟩ : IndexOptions).validate = .ok () ∧
      ∃ d, Directory.open? oneOrder ['i'] = .ok d ∧ Sound d ∧
        ∃ e, (into ⟨['.'], [], 1, 2, true⟩ (Moment.ofSeconds 0 0) 0 oneOrder).run d =
          (.error e, d) := by
  have hmemory : Sound earlierIndex := by
    change Text.Table.Sorted [(['n'], [1]), (Segment.fileName 7, [2])]
    unfold Text.Table.Sorted
    decide
  obtain ⟨stats, m', hrun⟩ : ∃ stats m',
      (into ⟨['.'], [], 1, 1, true⟩ (Moment.ofSeconds 0 0) 0 oneOrder).run earlierIndex =
        (.ok stats, m') := ⟨_, _, rfl⟩
  have hone : (⟨['.'], [], 1, 1, true⟩ : IndexOptions).validate = .ok () := rfl
  obtain ⟨file, -, hrebuilt⟩ := (into_rebuilds hone _ _ _ hmemory).2 stats m' hrun
  have hproper : oneOrder.Proper := ⟨by decide, by decide, by decide⟩
  have hopen : Directory.open? oneOrder ['i'] = .ok ⟨['i'], oneOrder, []⟩ := by decide
  have hfolder := Directory.sound_of_open? hproper hopen
  have htwo : (⟨['.'], [], 1, 2, true⟩ : IndexOptions).validate = .ok () := rfl
  have hmissing := (into_rebuilds htwo (Moment.ofSeconds 0 0) 0 oneOrder hfolder).1 2 _
    (by decide) (by decide) rfl
  exact ⟨hone, hmemory, ⟨stats, m', file, hrun, hrebuilt⟩, htwo, _, hopen, hfolder, hmissing⟩

end Indexer

end Kompositum

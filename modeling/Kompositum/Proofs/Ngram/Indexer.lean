import Kompositum.Ngram.Finder
import Kompositum.Proofs.Ngram.Segment.Storage
import Kompositum.Proofs.Outcome
import Kompositum.Proofs.Text.Table

/-!
# Building an index in memory

What a run of the indexer leaves behind: the segments of all orders that are indexed, and a
description of them.

* `Indexer.run_bind`: the steps of a run.
* `Indexer.run_indexOrders`: the segments that a run leaves behind.
* `Indexer.run_into`: a run of the indexer.
-/

namespace Kompositum

/-! ## Names of files -/

theorem Text.ofNat_inj {m n : Nat} (h : ofNat m = ofNat n) : m = n := by
  unfold ofNat at h
  rw [← Nat.ofDigitChars_ten_toDigits (n := m), h, Nat.ofDigitChars_ten_toDigits]

theorem Segment.fileName_inj {m n : Nat} (h : fileName m = fileName n) : m = n := by
  unfold fileName at h
  rw [List.append_assoc, List.append_assoc] at h
  exact Text.ofNat_inj (List.append_cancel_right (List.append_cancel_left h))

theorem Segment.fileName_ne (n : Nat) : fileName n ≠ IndexMeta.fileName := by
  intro h
  have hhead := congrArg List.head? h
  have hfirst : "order-".toList.head? = some 'o' := by decide
  have hfirst' : IndexMeta.fileName.head? = some 'm' := by decide
  unfold fileName at hhead
  rw [List.append_assoc, List.head?_append, hfirst, hfirst', Option.some_or] at hhead
  exact absurd hhead (by decide)

/-! ## Count files -/

/-- The files of some orders, if each of them is there. -/
theorem CountFile.ofOrders?_eq {files : Files} {dir : Text} {file : Nat → CountFile}
    (first k : Nat)
    (h : ∀ n, first ≤ n → n < first + k → ofOrder? files dir n = .ok (file n)) :
    ofOrders? files dir first k = .ok ((List.range' first k).map fun n => (n, file n)) := by
  induction k generalizing first with
  | zero => rfl
  | succ k ih =>
    have hrest := ih (first + 1) fun n h1 h2 => h n (by omega) (by omega)
    rw [ofOrders?, h first (Nat.le_refl _) (by omega), ok_bind, hrest, ok_bind,
      List.range'_succ]
    rfl

/-- If the files of some orders are all there, each of them is. -/
theorem CountFile.ofOrder?_of_ofOrders? {files : Files} {dir : Text} {first k : Nat}
    {l : List (Nat × CountFile)} (h : ofOrders? files dir first k = .ok l) {n : Nat}
    (h1 : first ≤ n) (h2 : n < first + k) : ∃ f, ofOrder? files dir n = .ok f := by
  induction k generalizing first l with
  | zero => omega
  | succ k ih =>
    rw [ofOrders?] at h
    obtain ⟨f, hf, h⟩ := bind_eq_ok.1 h
    obtain ⟨l', hl', -⟩ := bind_eq_ok.1 h
    by_cases hn : n = first
    · exact ⟨f, hn ▸ hf⟩
    · exact ih hl' (by omega) (by omega)

/-- If the files of some orders are not all there, one of them is not. -/
theorem CountFile.ofOrder?_of_ofOrders?_error {files : Files} {dir : Text} {first k : Nat}
    {e : Error} (h : ofOrders? files dir first k = .error e) :
    ∃ n, first ≤ n ∧ n < first + k ∧ ofOrder? files dir n = .error e := by
  induction k generalizing first with
  | zero => cases h
  | succ k ih =>
    rw [ofOrders?] at h
    rcases bind_eq_error.1 h with hf | ⟨f, -, h⟩
    · exact ⟨first, Nat.le_refl _, by omega, hf⟩
    · rcases bind_eq_error.1 h with hrest | ⟨l, -, hpure⟩
      · obtain ⟨n, h1, h2, hn⟩ := ih hrest
        exact ⟨n, by omega, by omega, hn⟩
      · cases hpure

/-! ## Reading what has been written -/

namespace Memory

theorem read_write_self (m : Memory) (name : Text) (content : Bytes) :
    ∃ m', Store.write m name content = .ok m' ∧ Store.read m' name = .ok content ∧
      ∀ other, other ≠ name → Store.read m' other = Store.read m other := by
  refine ⟨_, rfl, ?_, fun other hne => ?_⟩
  · change Memory.read _ name = _
    unfold Memory.read
    rw [Text.Table.get?_insert_self]
  · change Memory.read _ other = Memory.read m other
    unfold Memory.read
    rw [Text.Table.get?_insert_of_ne _ _ hne]

end Memory

namespace Indexer

variable {σ α β : Type}

/-! ## Steps of a run -/

/-- **A step and what follows it.** -/
theorem run_bind {x : Work σ α} {f : α → Work σ β} {s s' : σ} {a : α}
    (h : x.run s = (.ok a, s')) : (x >>= f).run s = (f a).run s' := by
  rw [ExceptT.run_bind]
  change (StateT.bind x.run _) s = _
  unfold StateT.bind
  rw [h]
  rfl

/-- A step that fails ends a run. -/
theorem run_bind_error {x : Work σ α} {f : α → Work σ β} {s s' : σ} {e : Error}
    (h : x.run s = (.error e, s')) : (x >>= f).run s = (.error e, s') := by
  rw [ExceptT.run_bind]
  change (StateT.bind x.run _) s = _
  unfold StateT.bind
  rw [h]
  rfl

theorem run_lift_error {e : Except Error α} {e' : Error} (h : e = .error e') (s : σ) :
    (liftM e : Work σ α).run s = (.error e', s) := by
  rw [h]
  rfl

theorem run_lift {e : Except Error α} {a : α} (h : e = .ok a) (s : σ) :
    (liftM e : Work σ α).run s = (.ok a, s) := by
  rw [h]
  rfl

theorem run_get (s : σ) : (get : Work σ σ).run s = (.ok s, s) := rfl

theorem run_change {f : σ → Except Error σ} {s s' : σ} (h : f s = .ok s') :
    (change f).run s = (.ok (), s') := by
  unfold change
  rw [run_bind (run_get s), run_bind (run_lift h s)]
  rfl

/-- **The steps of a run that succeeds.** -/
theorem run_bind_eq_ok {x : Work σ α} {f : α → Work σ β} {s s' : σ} {b : β} :
    (x >>= f).run s = (.ok b, s') ↔
      ∃ a s₁, x.run s = (.ok a, s₁) ∧ (f a).run s₁ = (.ok b, s') := by
  obtain ⟨r, s₁, hx⟩ : ∃ r s₁, x.run s = (r, s₁) := ⟨_, _, rfl⟩
  cases r with
  | ok a =>
    rw [run_bind hx]
    constructor
    · intro h
      exact ⟨a, s₁, hx, h⟩
    · rintro ⟨a', s₁', hx', h⟩
      obtain ⟨ha, rfl⟩ := Prod.mk.inj (hx.symm.trans hx')
      rwa [Except.ok.inj ha]
  | error e =>
    rw [run_bind_error hx]
    constructor
    · intro h
      cases (Prod.mk.inj h).1
    · rintro ⟨a', s₁', hx', -⟩
      cases (Prod.mk.inj (hx.symm.trans hx')).1

theorem run_lift_eq_ok {e : Except Error α} {s s' : σ} {a : α} :
    (liftM e : Work σ α).run s = (.ok a, s') ↔ e = .ok a ∧ s' = s := by
  cases e with
  | ok a' =>
    rw [run_lift rfl]
    constructor
    · intro h
      obtain ⟨ha, rfl⟩ := Prod.mk.inj h
      exact ⟨ha, rfl⟩
    · rintro ⟨ha, rfl⟩
      rw [ha]
  | error e =>
    rw [run_lift_error rfl]
    constructor
    · intro h
      cases (Prod.mk.inj h).1
    · rintro ⟨h, -⟩
      cases h

theorem run_change_eq_ok {f : σ → Except Error σ} {s s' : σ} :
    (change f).run s = (.ok (), s') ↔ f s = .ok s' := by
  constructor
  · intro h
    unfold change at h
    rw [run_bind (run_get s), run_bind_eq_ok] at h
    obtain ⟨s₁, s₂, hf, hset⟩ := h
    obtain ⟨hf, rfl⟩ := run_lift_eq_ok.1 hf
    have hset' : s₁ = s' := (Prod.mk.inj hset).2
    rw [hf, hset']
  · exact run_change

/-! ## The segments -/

/-- Whatever is deleted, clearing goes on. -/
theorem run_clear (names : List Text) (m : Memory) :
    ∃ m', (clear names : Work Memory Unit).run m = (.ok (), m') := by
  induction names generalizing m with
  | nil => exact ⟨m, rfl⟩
  | cons name names ih =>
    unfold clear
    by_cases hname : Segment.isFileName name = true
    · obtain ⟨m', hm'⟩ := ih (m.delete name)
      have hchange : (change fun s : Memory => (Store.delete s name).mapError Error.store).run m =
          (.ok (), m.delete name) := run_change rfl
      refine ⟨m', ?_⟩
      rw [if_pos hname, run_bind hchange, hm']
    · obtain ⟨m', hm'⟩ := ih m
      refine ⟨m', ?_⟩
      rw [if_neg hname]
      exact hm'

/-- The segment of an order in a file. -/
def segmentOf (foldsCase : Bool) (n : Nat) (f : CountFile) : Segment :=
  .ofCounts n (counts foldsCase n f)

/-- What is said of an order in a file. -/
def statsOf (foldsCase : Bool) (n : Nat) (f : CountFile) : OrderStats :=
  stats (segmentOf foldsCase n f) (skipped foldsCase n f)

/-- **One order**: its segment is there afterwards, and all other files are as before. -/
theorem run_indexOrder {foldsCase : Bool} {n : Nat} {f : CountFile}
    (h : (counts foldsCase n f).length ≤ Segment.maxGrams) (m : Memory) :
    ∃ m', (indexOrder foldsCase n f).run m = (.ok (statsOf foldsCase n f), m') ∧
      Store.read m' (Segment.fileName n) = .ok (segmentOf foldsCase n f).encode ∧
      ∀ other, other ≠ Segment.fileName n → Store.read m' other = Store.read m other := by
  obtain ⟨m', hwrite, hread, hother⟩ := Memory.read_write_self m (Segment.fileName n)
    (segmentOf foldsCase n f).encode
  have hsegment : segment n (counts foldsCase n f) = .ok (segmentOf foldsCase n f) :=
    if_neg (Nat.not_lt.2 h)
  have hsave : (segmentOf foldsCase n f).save m = .ok m' := Segment.save_eq_ok_iff.2 hwrite
  refine ⟨m', ?_, hread, hother⟩
  unfold indexOrder
  rw [run_bind (run_lift hsegment m), run_bind (run_change hsave)]
  rfl

/-- **Some orders, one after the other.** -/
theorem run_indexOrders {foldsCase : Bool} {file : Nat → CountFile} {ns : List Nat}
    (hnodup : ns.Nodup)
    (h : ∀ n ∈ ns, (counts foldsCase n (file n)).length ≤ Segment.maxGrams) (m : Memory) :
    ∃ m', (indexOrders foldsCase (ns.map fun n => (n, file n))).run m =
        (.ok (ns.map fun n => statsOf foldsCase n (file n)), m') ∧
      (∀ n ∈ ns,
        Store.read m' (Segment.fileName n) = .ok (segmentOf foldsCase n (file n)).encode) ∧
      ∀ other, (∀ n ∈ ns, other ≠ Segment.fileName n) →
        Store.read m' other = Store.read m other := by
  induction ns generalizing m with
  | nil => exact ⟨m, rfl, by simp, fun other _ => rfl⟩
  | cons n ns ih =>
    obtain ⟨hn, hns⟩ := List.nodup_cons.1 hnodup
    obtain ⟨m₁, hrun, hread, hother⟩ := run_indexOrder (h n List.mem_cons_self) m
    obtain ⟨m₂, hrun', hread', hother'⟩ := ih hns (fun k hk => h k (List.mem_cons_of_mem n hk)) m₁
    refine ⟨m₂, ?_, fun k hk => ?_, fun other hne => ?_⟩
    · rw [List.map_cons, indexOrders, run_bind hrun, run_bind hrun']
      rfl
    · rcases List.mem_cons.1 hk with rfl | hk
      · -- the later orders have files of other names
        have hne (j : Nat) (hj : j ∈ ns) : Segment.fileName k ≠ Segment.fileName j := fun heq =>
          hn (Segment.fileName_inj heq ▸ hj)
        rw [hother' _ hne, hread]
      · exact hread' k hk
    · rw [hother' other fun k hk => hne k (List.mem_cons_of_mem n hk),
        hother other (hne n List.mem_cons_self)]

/-! ## A run -/

/-- What a run tells. -/
def built (o : IndexOptions) (elapsed : Nat) (file : Nat → CountFile) : IndexStats :=
  let left := (List.range' 1 (o.minOrder - 1)).map fun n => (n, file n)
  let orders := (List.range' o.minOrder (o.maxOrder + 1 - o.minOrder)).map fun n =>
    statsOf o.foldsCase n (file n)
  ⟨orders, totalUnigrams left orders, elapsed⟩

/-- **A run of the indexer** succeeds, whatever is in memory. It leaves the segments of all orders
behind and the description of the index. -/
theorem run_into {o : IndexOptions} (now : Moment) (elapsed : Nat) {files : Files} {file : Nat → CountFile}
    (hmin : 1 ≤ o.minOrder) (hmax : o.minOrder ≤ o.maxOrder)
    (hfile : ∀ n, 1 ≤ n → n ≤ o.maxOrder → CountFile.ofOrder? files o.sourceDir n = .ok (file n))
    (hfew : ∀ n, 1 ≤ n → n ≤ o.maxOrder →
      (counts o.foldsCase n (file n)).length ≤ Segment.maxGrams) (m : Memory) :
    ∃ m', (into o now elapsed files).run m = (.ok (built o elapsed file), m') ∧
      (∀ n, o.minOrder ≤ n → n ≤ o.maxOrder →
        Store.read m' (Segment.fileName n) = .ok (segmentOf o.foldsCase n (file n)).encode) ∧
      Store.read m' IndexMeta.fileName =
        .ok (Utf8.encode (about o now files (built o elapsed file)).toJson.pretty) := by
  -- all count files are read before the storage is changed
  have hleft := CountFile.ofOrders?_eq 1 (o.minOrder - 1) fun n h1 h2 => hfile n h1 (by omega)
  have hsources := CountFile.ofOrders?_eq o.minOrder (o.maxOrder + 1 - o.minOrder) fun n h1 h2 =>
    hfile n (by omega) (by omega)
  obtain ⟨m₁, hclear⟩ := run_clear (Store.names m) m
  have hrange : ∀ n ∈ List.range' o.minOrder (o.maxOrder + 1 - o.minOrder),
      (counts o.foldsCase n (file n)).length ≤ Segment.maxGrams := by
    intro n hn
    rw [List.mem_range'_1] at hn
    exact hfew n (by omega) (by omega)
  obtain ⟨m₂, horders, hsegments, -⟩ := run_indexOrders List.nodup_range' hrange m₁
  obtain ⟨m₃, hsave, hmeta, hother⟩ := Memory.read_write_self m₂ IndexMeta.fileName
    (Utf8.encode (about o now files (built o elapsed file)).toJson.pretty)
  refine ⟨m₃, ?_, fun n h1 h2 => ?_, hmeta⟩
  · unfold into
    rw [run_bind (run_lift hleft m), run_bind (run_lift hsources m), run_bind (run_get m),
      run_bind hclear, run_bind horders]
    -- the description comes last
    have hchange : (change (about o now files (built o elapsed file)).save).run m₂ = (.ok (), m₃) := by
      refine run_change ?_
      unfold IndexMeta.save
      rw [hsave]
      rfl
    exact run_bind hchange
  -- its name is not that of a segment
  · rw [hother _ (Segment.fileName_ne n)]
    exact hsegments n (List.mem_range'_1.2 ⟨h1, by omega⟩)

end Indexer

end Kompositum

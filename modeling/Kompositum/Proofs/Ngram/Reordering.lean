import Kompositum.Proofs.Ngram.Rebuilding
import Kompositum.Proofs.Ngram.Totals
import Mathlib.Data.List.Forall2

/-!
# The order of lines

It does not matter in which order a count file has its lines: counts that are added up, also those
that are cut off at the largest count, do not depend on it, and grams and tokens are put in order
when an index is built.

* `CountFile.Reordered`: count files with the same lines.
* `Indexer.counts_reordered`, `Indexer.skipped_reordered`, `CountFile.total_reordered`: what is said
  of them.
* `Indexer.into_eq_of_reordered`: the indexer is the same program for them.
* `Indexer.into_reordered`: the segments and statistics of two runs are the same.
-/

namespace Kompositum

/-! ## What count files say -/

namespace CountFile

/-- **Count files with the same lines**, not necessarily in the same order, or none at all. -/
inductive Reordered : Except Error CountFile → Except Error CountFile → Prop
  | lines {f g : CountFile} (h : f.rawLines.Perm g.rawLines) : Reordered (.ok f) (.ok g)
  | missing (e : Error) : Reordered (.error e) (.error e)

theorem reordered_iff {r r' : Except Error CountFile} :
    Reordered r r' ↔ (∃ e, r = .error e ∧ r' = .error e) ∨
      ∃ f g : CountFile, r = .ok f ∧ r' = .ok g ∧ f.rawLines.Perm g.rawLines := by
  constructor
  · rintro (hlines | e)
    · exact .inr ⟨_, _, rfl, rfl, hlines⟩
    · exact .inl ⟨e, rfl, rfl⟩
  · rintro (⟨e, rfl, rfl⟩ | ⟨f, g, rfl, rfl, hlines⟩)
    · exact .missing e
    · exact .lines hlines

variable {f g : CountFile} (h : f.rawLines.Perm g.rawLines)
include h

theorem rows_reordered (foldsCase : Bool) : (f.rows foldsCase).Perm (g.rows foldsCase) :=
  h.filterMap _

theorem entries_reordered (foldsCase : Bool) : (f.entries foldsCase).Perm (g.entries foldsCase) := by
  unfold entries lines
  exact (h.map _).filterMap _

theorem malformed_reordered (foldsCase : Bool) : f.malformed foldsCase = g.malformed foldsCase := by
  unfold malformed lines
  exact (h.map _).count_eq _

/-- How often a row is counted. -/
theorem tally_reordered (foldsCase : Bool) (tokens : List Text) :
    f.tally foldsCase tokens = g.tally foldsCase tokens := by
  have hrows := rows_reordered h foldsCase
  exact Count.sum_perm ((hrows.filter _).map _)

/-- **The sum of all counts.** -/
theorem total_reordered : f.total = g.total := by
  have hentries := entries_reordered h false
  unfold total
  rw [Count.foldl_add_snd, Count.foldl_add_snd, Count.sum_perm (hentries.map _)]

end CountFile

namespace Indexer

open Text (Table)

section Lines

variable {f g : CountFile} (h : f.rawLines.Perm g.rawLines)
include h

/-- **The counts of a file** are those of the rows of its lines, each with its tally. -/
theorem counts_reordered (foldsCase : Bool) (n : Nat) :
    counts foldsCase n f = counts foldsCase n g := by
  have hrows := CountFile.rows_reordered h foldsCase
  refine (sorted_counts n f).ext (sorted_counts n g) fun gram => Option.ext fun k => ?_
  rw [(sorted_counts n f).get?_eq_some_iff, (sorted_counts n g).get?_eq_some_iff, mem_counts_iff,
    mem_counts_iff]
  simp only [hrows.mem_iff, CountFile.tally_reordered h]

theorem skipped_reordered (foldsCase : Bool) (n : Nat) :
    skipped foldsCase n f = skipped foldsCase n g := by
  have hentries := CountFile.entries_reordered h foldsCase
  unfold skipped
  rw [CountFile.malformed_reordered h, hentries.countP_eq]

/-- **One order**: its segment and its statistics. -/
theorem segmentOf_reordered (foldsCase : Bool) (n : Nat) :
    segmentOf foldsCase n f = segmentOf foldsCase n g := by
  unfold segmentOf
  rw [counts_reordered h]

theorem statsOf_reordered (foldsCase : Bool) (n : Nat) :
    statsOf foldsCase n f = statsOf foldsCase n g := by
  unfold statsOf
  rw [segmentOf_reordered h, skipped_reordered h]

end Lines

/-! ## Runs of the indexer -/

/-- Two count files of one order, with the same lines. -/
def SameOrder (x y : Nat × CountFile) : Prop := x.1 = y.1 ∧ x.2.rawLines.Perm y.2.rawLines

/-- **The count files of some orders**, or the fault of the first one that is missing. -/
theorem ofOrders?_reordered {files files' : Files} {dir : Text} (first k : Nat)
    (h : ∀ n, first ≤ n → n < first + k →
      CountFile.Reordered (CountFile.ofOrder? files dir n) (CountFile.ofOrder? files' dir n)) :
    (∃ e, CountFile.ofOrders? files dir first k = .error e ∧
        CountFile.ofOrders? files' dir first k = .error e) ∨
      ∃ l l', CountFile.ofOrders? files dir first k = .ok l ∧
        CountFile.ofOrders? files' dir first k = .ok l' ∧ List.Forall₂ SameOrder l l' := by
  induction k generalizing first with
  | zero => exact .inr ⟨[], [], rfl, rfl, .nil⟩
  | succ k ih =>
    have hfirst := CountFile.reordered_iff.1 (h first (Nat.le_refl _) (by omega))
    have hrest := ih (first + 1) fun n h1 h2 => h n (by omega) (by omega)
    unfold CountFile.ofOrders?
    rcases hfirst with ⟨e, hf, hg⟩ | ⟨f, g, hf, hg, hlines⟩
    · rw [hf, hg]
      exact .inl ⟨e, rfl, rfl⟩
    · rw [hf, hg, ok_bind, ok_bind]
      rcases hrest with ⟨e, hl, hl'⟩ | ⟨l, l', hl, hl', hsame⟩
      · rw [hl, hl']
        exact .inl ⟨e, rfl, rfl⟩
      · rw [hl, hl']
        exact .inr ⟨(first, f) :: l, (first, g) :: l', rfl, rfl, .cons ⟨rfl, hlines⟩ hsame⟩

section Programs

variable {σ α β : Type} [Store σ]

omit [Store σ] in
/-- A step that yields a value goes on with it. -/
theorem lift_ok_bind (a : α) (f : α → Work σ β) : (liftM (Except.ok a : Except Error α) >>= f) = f a :=
  rfl

omit [Store σ] in
theorem lift_error_bind (e : Error) (f : α → Work σ β) :
    (liftM (Except.error e : Except Error α) >>= f) = liftM (Except.error e : Except Error β) := rfl

theorem indexOrders_reordered (foldsCase : Bool) {l l' : List (Nat × CountFile)}
    (h : List.Forall₂ SameOrder l l') :
    (indexOrders foldsCase l : Work σ (List OrderStats)) = indexOrders foldsCase l' := by
  induction h with
  | nil => rfl
  | @cons x y l l' hxy _ ih =>
    obtain ⟨n, f⟩ := x
    obtain ⟨m, g⟩ := y
    obtain ⟨rfl, hlines⟩ : n = m ∧ f.rawLines.Perm g.rawLines := hxy
    have horder : (indexOrder foldsCase n f : Work σ OrderStats) = indexOrder foldsCase n g := by
      unfold indexOrder
      rw [counts_reordered hlines, skipped_reordered hlines]
    unfold indexOrders
    rw [horder, ih]

theorem totalUnigrams_reordered {l l' : List (Nat × CountFile)} (h : List.Forall₂ SameOrder l l')
    (orders : List OrderStats) : totalUnigrams l orders = totalUnigrams l' orders := by
  cases h with
  | nil => rfl
  | cons hxy _ => exact CountFile.total_reordered hxy.2

/-- **The indexer is the same program**, whatever it works with: what it does to a storage and what
it returns, in success and in failure, are the same. -/
theorem into_eq_of_reordered {o : IndexOptions} (now : Moment) (elapsed : Nat) {files files' : Files}
    (hmin : 1 ≤ o.minOrder) (hmax : o.minOrder ≤ o.maxOrder) (hhome : files'.home = files.home)
    (h : ∀ n, 1 ≤ n → n ≤ o.maxOrder → CountFile.Reordered
      (CountFile.ofOrder? files o.sourceDir n) (CountFile.ofOrder? files' o.sourceDir n)) :
    (into o now elapsed files' : Work σ IndexStats) = into o now elapsed files := by
  have habout (stats : IndexStats) : about o now files' stats = about o now files stats := by
    unfold about Files.homePath
    rw [hhome]
  have hleft := ofOrders?_reordered 1 (o.minOrder - 1) fun n h1 h2 => h n h1 (by omega)
  have hsources := ofOrders?_reordered o.minOrder (o.maxOrder + 1 - o.minOrder)
    fun n h1 h2 => h n (by omega) (by omega)
  rw [into_eq, into_eq]
  rcases hleft with ⟨e, hl, hl'⟩ | ⟨left, left', hl, hl', hsame⟩
  · rw [hl, hl', lift_error_bind, lift_error_bind]
  rw [hl, hl', lift_ok_bind, lift_ok_bind]
  rcases hsources with ⟨e, hs, hs'⟩ | ⟨sources, sources', hs, hs', hsame'⟩
  · rw [hs, hs', lift_error_bind, lift_error_bind]
  rw [hs, hs', lift_ok_bind, lift_ok_bind]
  unfold rebuild
  simp only [indexOrders_reordered o.foldsCase hsame', totalUnigrams_reordered hsame, habout]

end Programs

/-- What a run tells. -/
theorem built_reordered {o : IndexOptions} {elapsed : Nat} {file file' : Nat → CountFile}
    (hmin : 1 ≤ o.minOrder) (hmax : o.minOrder ≤ o.maxOrder)
    (h : ∀ n, 1 ≤ n → n ≤ o.maxOrder → (file n).rawLines.Perm (file' n).rawLines) :
    built o elapsed file = built o elapsed file' := by
  have hleft : List.Forall₂ SameOrder (listed file 1 (o.minOrder - 1))
      (listed file' 1 (o.minOrder - 1)) := by
    unfold listed
    rw [List.forall₂_map_left_iff, List.forall₂_map_right_iff, List.forall₂_same]
    intro n hn
    rw [List.mem_range'_1] at hn
    exact ⟨rfl, h n hn.1 (by omega)⟩
  have horders : ((List.range' o.minOrder (o.maxOrder + 1 - o.minOrder)).map fun n =>
        statsOf o.foldsCase n (file n)) =
      (List.range' o.minOrder (o.maxOrder + 1 - o.minOrder)).map fun n =>
        statsOf o.foldsCase n (file' n) := by
    refine List.map_congr_left fun n hn => ?_
    rw [List.mem_range'_1] at hn
    exact statsOf_reordered (h n (by omega) (by omega)) o.foldsCase n
  have htotal := totalUnigrams_reordered hleft
  unfold listed at htotal
  unfold built
  simp only [horders, htotal]

open Store.Tabular (Sound)

/-- **The order of lines does not matter.** For count files with the same lines in another order the
indexer is the same program, and two runs that succeed, whenever and in whatever storages, tell the
same but for the time that they took, and leave the same bytes behind in the segments of all
orders. -/
theorem into_reordered {o : IndexOptions} (hvalid : o.validate = .ok ()) {files files' : Files}
    (h : ∀ n, 1 ≤ n → n ≤ o.maxOrder → CountFile.Reordered
      (CountFile.ofOrder? files o.sourceDir n) (CountFile.ofOrder? files' o.sourceDir n)) :
    (files'.home = files.home → ∀ (σ : Type) [Store σ] (now : Moment) (elapsed : Nat),
      (into o now elapsed files' : Work σ IndexStats) = into o now elapsed files) ∧
    ∀ (σ τ : Type) [Store σ] [Store.Tabular σ] [Store τ] [Store.Tabular τ] (s s' : σ) (t t' : τ)
      (now now' : Moment) (elapsed elapsed' : Nat) (stats stats' : IndexStats), Sound s → Sound t →
      (into o now elapsed files).run s = (.ok stats, s') →
      (into o now' elapsed' files').run t = (.ok stats', t') →
        stats' = { stats with elapsed := elapsed' } ∧ ∀ n, o.minOrder ≤ n → n ≤ o.maxOrder →
          ∃ bytes, Store.read s' (Segment.fileName n) = .ok bytes ∧
            Store.read t' (Segment.fileName n) = .ok bytes := by
  obtain ⟨hmin, hmax⟩ := IndexOptions.validate_eq_ok_iff.1 hvalid
  constructor
  · intro hhome σ _ now elapsed
    exact into_eq_of_reordered now elapsed hmin hmax hhome h
  · intro σ τ _ _ _ _ s s' t t' now now' elapsed elapsed' stats stats' hs ht hrun hrun'
    obtain ⟨file, hfile, hrebuilt⟩ := rebuilt_of_into hmin hmax hs hrun
    obtain ⟨file', hfile', hrebuilt'⟩ := rebuilt_of_into hmin hmax ht hrun'
    have hlines (n : Nat) (h1 : 1 ≤ n) (h2 : n ≤ o.maxOrder) :
        (file n).rawLines.Perm (file' n).rawLines := by
      have hn := h n h1 h2
      rw [hfile n h1 h2, hfile' n h1 h2] at hn
      cases hn with
      | lines hlines => exact hlines
    refine ⟨?_, fun n h1 h2 => ⟨_, hrebuilt.read_segment n h1 h2, ?_⟩⟩
    · rw [hrebuilt.stats_eq, hrebuilt'.stats_eq, ← built_reordered hmin hmax hlines]
      rfl
    · rw [hrebuilt'.read_segment n h1 h2,
        segmentOf_reordered (hlines n (by omega) h2) o.foldsCase n]

/-- A count file of the first order with these bytes. -/
def withLines (content : Bytes) : Files where
  home := [['w']]
  entries := [([['w']], .folder), ([['w'], CountFile.fileName 1], .file content)]

/-- The lines `a 18446744073709551615`, `b` and `a 1`: a sum that is cut off, and a line without a
count between its parts. -/
def cutOff : Bytes :=
  [97, 32, 49, 56, 52, 52, 54, 55, 52, 52, 48, 55, 51, 55, 48, 57, 53, 53, 49, 54, 49, 53, 10, 98,
    10, 97, 32, 49]

/-- The same lines in another order. -/
def cutOffReordered : Bytes :=
  [97, 32, 49, 10, 97, 32, 49, 56, 52, 52, 54, 55, 52, 52, 48, 55, 51, 55, 48, 57, 53, 53, 49, 54,
    49, 53, 10, 98]

theorem into_reordered_cutOff :
    (⟨['.'], [], 1, 1, true⟩ : IndexOptions).validate = .ok () ∧
      (∀ n, 1 ≤ n → n ≤ 1 → CountFile.Reordered
        (CountFile.ofOrder? (withLines cutOff) ['.'] n)
        (CountFile.ofOrder? (withLines cutOffReordered) ['.'] n)) ∧
      Sound Memory.empty ∧
      ∃ stats m m',
        (into ⟨['.'], [], 1, 1, true⟩ (Moment.ofSeconds 0 0) 0 (withLines cutOff)).run
          Memory.empty = (.ok stats, m) ∧
        (into ⟨['.'], [], 1, 1, true⟩ (Moment.ofSeconds 60 0) 7 (withLines cutOffReordered)).run
          Memory.empty = (.ok { stats with elapsed := 7 }, m') ∧
        ∃ bytes, Store.read m (Segment.fileName 1) = .ok bytes ∧
          Store.read m' (Segment.fileName 1) = .ok bytes := by
  have hvalid : (⟨['.'], [], 1, 1, true⟩ : IndexOptions).validate = .ok () := rfl
  have hlines : ∀ n, 1 ≤ n → n ≤ 1 → CountFile.Reordered
      (CountFile.ofOrder? (withLines cutOff) ['.'] n)
      (CountFile.ofOrder? (withLines cutOffReordered) ['.'] n) := by
    intro n h1 h2
    obtain rfl : n = 1 := by omega
    exact .lines (by decide)
  have hempty : Sound Memory.empty := Text.Table.sorted_nil
  obtain ⟨stats, m, hrun⟩ : ∃ stats m,
      (into ⟨['.'], [], 1, 1, true⟩ (Moment.ofSeconds 0 0) 0 (withLines cutOff)).run
        Memory.empty = (.ok stats, m) := ⟨_, _, rfl⟩
  obtain ⟨stats', m', hrun'⟩ : ∃ stats m,
      (into ⟨['.'], [], 1, 1, true⟩ (Moment.ofSeconds 60 0) 7 (withLines cutOffReordered)).run
        Memory.empty = (.ok stats, m) := ⟨_, _, rfl⟩
  obtain ⟨rfl, hsegments⟩ := (into_reordered hvalid hlines).2 Memory Memory _ _ _ _ _ _ _ _ _ _
    hempty hempty hrun hrun'
  exact ⟨hvalid, hlines, hempty, _, m, m', hrun, hrun', hsegments 1 (by decide) (by decide)⟩

end Indexer

end Kompositum

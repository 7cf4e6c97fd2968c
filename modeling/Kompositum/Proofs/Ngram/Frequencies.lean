import Kompositum.Proofs.Ngram.Rebuilding
import Kompositum.Proofs.Ranking.Table

/-!
# An index and a table of frequencies

A table may be filled with the entries of count files, one by one. It says of a gram what an index
of these files says, although the index has merged the counts before and keeps every order by
itself.

* `CountFile.ownEntries`: the entries of an order in its file.
* `Corpus.freq_ofEntries`, `Corpus.total_ofEntries`: what the table says.
* `Indexer.ofStore_of_run`: the finder for the index that a run leaves behind in any storage.
* `Indexer.frequencies_eq_table`: the finder and the table say the same.
-/

namespace Kompositum

/-! ## The entries of an order -/

namespace CountFile

/-- **The entries of an order**: those whose grams have as many tokens as the order says. -/
def ownEntries (foldsCase : Bool) (n : Nat) (f : CountFile) : List (Text × Nat) :=
  (f.entries foldsCase).filter fun e => (Text.words e.1).length == n

/-- A row in small letters, however case was treated when it was read. -/
theorem map_lower_rowOf? (foldsCase : Bool) (t : Text) :
    (rowOf? foldsCase t).map (fun r => (r.1.map Text.lower, r.2)) = rowOf? true t := by
  have htwice (tokens : List Text) : (tokens.map Text.lower).map Text.lower =
      tokens.map Text.lower := by
    rw [List.map_map]
    exact List.map_congr_left fun t _ => Text.lower_lower t
  unfold rowOf?
  cases hlast : (Text.words t).getLast? with
  | none => simp [hlast]
  | some last =>
    cases hcount : Count.ofText? last with
    | none => simp [hlast, hcount]
    | some n =>
      by_cases hnil : (Text.words t).dropLast = []
      · simp [hlast, hnil]
      · cases foldsCase with
        | false => simp [hlast, hcount, hnil]
        | true => simp only [hlast, hcount, hnil, Option.bind_some, List.isEmpty_iff, if_false,
            if_true, htwice, Option.map_some, Option.bind_eq_bind]

theorem map_lower_rows (foldsCase : Bool) (f : CountFile) :
    ((f.rows foldsCase).map fun r => (r.1.map Text.lower, r.2)) = f.rows true := by
  unfold rows
  rw [List.map_filterMap]
  congr 1
  funext line
  unfold row?
  cases (Utf8.decode line).toOption with
  | none => rfl
  | some t => exact map_lower_rowOf? foldsCase t

/-- **The entries of an order** add the rows of as many tokens. -/
theorem rows_ownEntries (foldsCase : Bool) (n : Nat) (f : CountFile) :
    FrequencyTable.rows (f.ownEntries foldsCase n) =
      (f.rows true).filter fun r => r.1.length == n := by
  have hown : f.ownEntries foldsCase n =
      ((f.rows foldsCase).filter fun r => r.1.length == n).map
        fun r => (Ngram.unwords r.1, r.2) := by
    unfold ownEntries
    rw [entries_eq, List.filter_map]
    congr 1
    refine List.filter_congr fun r hr => ?_
    rw [Function.comp_apply, Ngram.words_unwords (isToken_of_mem_rows hr).2]
  have htokenize : (f.ownEntries foldsCase n).map (fun e => (Ngram.tokenize true e.1, e.2)) =
      ((f.rows foldsCase).filter fun r => r.1.length == n).map
        fun r => (r.1.map Text.lower, r.2) := by
    rw [hown, List.map_map]
    refine List.map_congr_left fun r hr => ?_
    have htoken := (isToken_of_mem_rows (List.mem_filter.1 hr).1).2
    exact Prod.ext (Ngram.tokenize_unwords htoken) rfl
  have hlower : ((f.rows foldsCase).filter fun r => r.1.length == n).map
        (fun r => (r.1.map Text.lower, r.2)) =
      (f.rows true).filter fun r => r.1.length == n := by
    rw [← map_lower_rows foldsCase f, List.filter_map]
    congr 1
    exact List.filter_congr fun r _ => by rw [Function.comp_apply, List.length_map]
  unfold FrequencyTable.rows
  rw [htokenize, hlower]
  -- none of these rows is empty
  refine List.filter_eq_self.2 fun r hr => ?_
  exact bne_iff_ne.2 (isToken_of_mem_rows (List.mem_filter.1 hr).1).1

end CountFile

namespace Corpus

variable {c : Corpus}

/-- **The entries of a corpus**, order by order. -/
def entries (c : Corpus) (foldsCase : Bool) : List (Text × Nat) :=
  (List.range' 1 c.maxOrder).flatMap fun n => (c.file n).ownEntries foldsCase n

/-- Of several numbers one has something to say. -/
theorem flatMap_single {α : Type} {ns : List Nat} (h : ns.Nodup) (k : Nat) (l : List α) :
    (ns.flatMap fun n => if n = k then l else []) = if k ∈ ns then l else [] := by
  induction ns with
  | nil => rfl
  | cons n ns ih =>
    obtain ⟨hn, hns⟩ := List.nodup_cons.1 h
    rw [List.flatMap_cons, ih hns]
    by_cases hnk : n = k
    · subst hnk
      rw [if_pos rfl, if_neg hn, if_pos List.mem_cons_self, List.append_nil]
    · have hmem : k ∈ n :: ns ↔ k ∈ ns := by
        rw [List.mem_cons, or_iff_right (Ne.symm hnk)]
      rw [if_neg hnk, List.nil_append]
      simp only [hmem]

/-- **Rows of one length** among all that the entries of a corpus add are rows of the file of this
order. -/
theorem filter_rows_entries {k : Nat} {p : List Text × Nat → Bool}
    (hp : ∀ r, p r = true → r.1.length = k) (foldsCase : Bool) :
    (FrequencyTable.rows (c.entries foldsCase)).filter p =
      if 1 ≤ k ∧ k ≤ c.maxOrder then ((c.file k).rows true).filter p else [] := by
  have hrows : FrequencyTable.rows (c.entries foldsCase) =
      (List.range' 1 c.maxOrder).flatMap fun n =>
        ((c.file n).rows true).filter fun r => r.1.length == n := by
    simp only [← CountFile.rows_ownEntries foldsCase]
    unfold FrequencyTable.rows entries
    rw [List.map_flatMap, List.filter_flatMap]
  -- a file of another order has nothing to say
  have hfile (n : Nat) : (((c.file n).rows true).filter fun r => r.1.length == n).filter p =
      if n = k then ((c.file k).rows true).filter p else [] := by
    rw [List.filter_filter]
    by_cases hn : n = k
    · subst hn
      rw [if_pos rfl]
      refine List.filter_congr fun r _ => ?_
      cases hr : p r with
      | false => rfl
      | true => exact beq_iff_eq.2 (hp r hr)
    · rw [if_neg hn, List.filter_eq_nil_iff]
      intro r _ hr
      rw [Bool.and_eq_true, beq_iff_eq] at hr
      exact hn (hr.2.symm.trans (hp r hr.1))
  have hrange : k ∈ List.range' 1 c.maxOrder ↔ 1 ≤ k ∧ k ≤ c.maxOrder := by
    rw [List.mem_range'_1]
    omega
  rw [hrows, List.filter_flatMap]
  simp only [hfile, flatMap_single List.nodup_range', hrange]

variable {foldsCase : Bool} {es : List (Text × Nat)} (h : es.Perm (c.entries foldsCase))
include h

/-- **How often a gram occurs in a table of a corpus** is how often it occurs in the corpus with
case folded, in whichever order the table has been filled. -/
theorem freq_ofEntries (hfold : c.foldsCase = true) (gram : Text) :
    (FrequencyTable.ofEntries es).freq gram = c.freq gram := by
  have hrow (r : List Text × Nat) (hr : (r.1 == Ngram.tokenize true gram) = true) :
      r.1.length = (Ngram.tokenize true gram).length := by
    rw [eq_of_beq hr]
  have hperm := FrequencyTable.rows_perm h
  have hsum := Count.sum_perm ((hperm.filter fun r => r.1 == Ngram.tokenize true gram).map Prod.snd)
  rw [FrequencyTable.freq_ofEntries, hsum, filter_rows_entries hrow]
  unfold freq count CountFile.tally
  simp only [hfold]
  by_cases hlen : 1 ≤ (Ngram.tokenize true gram).length ∧
      (Ngram.tokenize true gram).length ≤ c.maxOrder
  · rw [if_pos hlen, if_pos hlen]
  · rw [if_neg hlen, if_neg hlen]
    exact Nat.zero_min _

/-- **How many single tokens a table of a corpus counts**: those in the count file of the first
order. -/
theorem total_ofEntries (hM : 1 ≤ c.maxOrder) :
    (FrequencyTable.ofEntries es).total = min ((c.file 1).ownSum true 1) Count.largest := by
  have hrow (r : List Text × Nat) (hr : (r.1.length == 1) = true) : r.1.length = 1 := eq_of_beq hr
  have hperm := FrequencyTable.rows_perm h
  have hsum := Count.sum_perm ((hperm.filter fun r => r.1.length == 1).map Prod.snd)
  rw [FrequencyTable.total_ofEntries, hsum, filter_rows_entries hrow,
    if_pos ⟨Nat.le_refl 1, hM⟩]
  rfl

end Corpus

namespace Indexer

open Store.Tabular (Sound)

variable {σ : Type} [Store σ] [Store.Tabular σ] {s s' : σ} {o : IndexOptions} {now : Moment} {elapsed : Nat}
  {files later : Files} {file : Nat → CountFile} {stats : IndexStats}

/-- **The finder for the index that a run leaves behind** opens unless there are too many orders,
and then it is the one for the count files of the run. -/
theorem ofStore_of_run (hhome : files.HasHome) (hmin : 1 ≤ o.minOrder)
    (hmax : o.minOrder ≤ o.maxOrder) (hnow : now.IsProper)
    (hfile : ∀ n, 1 ≤ n → n ≤ o.maxOrder → CountFile.ofOrder? files o.sourceDir n = .ok (file n))
    (hs : Sound s) (hrun : (into o now elapsed files).run s = (.ok stats, s'))
    (hsame : SameCounts files later (Path.absolute files.homePath o.sourceDir) o.maxOrder)
    (location : Text) (finder : Finder) :
    Finder.ofStore later s' location = .ok finder ↔
      o.maxOrder < Record.wordBound ∧ finder = ⟨location, some ⟨about o now files (built o elapsed file),
        (List.range' 1 o.maxOrder).map fun n => (n, source o files file n)⟩⟩ := by
  have hbuilt := rebuilt_of_files hmin hmax hfile hs hrun
  have hmeta := hbuilt.stats_eq ▸ hbuilt.read_meta
  have hopen (horder : o.maxOrder < Record.wordBound) := by
    have hlarge : o.maxOrder ≤ Count.largest := Nat.le_trans (Nat.le_of_lt horder) (by decide)
    have hback : (about o now files (built o elapsed file)).ReadsBack :=
      (fits_about hmin hmax hlarge hnow hfile hbuilt.few).readsBack
    exact ofStore_eq hhome hmin hmax horder hfile hbuilt.few hbuilt.read_segment hmeta hback hsame
      location
  constructor
  · intro hfinder
    have horder := order_lt_of_ofStore hmin hmax hnow hfile hbuilt.few hbuilt.read_segment hmeta
      hfinder
    exact ⟨horder, Except.ok.inj (hfinder.symm.trans (hopen horder))⟩
  · rintro ⟨horder, rfl⟩
    exact hopen horder

/-- **A finder and a table of frequencies say the same**: the finder for the index of a corpus with
case folded, in whichever storage it is, and the table of all entries of the corpus, in whichever
order they have been added. The totals agree as long as the first order has a segment. -/
theorem frequencies_eq_table {c : Corpus} (hfold : c.foldsCase = true) {dir : Text}
    (hhome : files.HasHome)
    (hfile : ∀ n, 1 ≤ n → n ≤ c.maxOrder → CountFile.ofOrder? files dir n = .ok (c.file n))
    {minOrder : Nat} (hmin : 1 ≤ minOrder) (hmax : minOrder ≤ c.maxOrder) {indexDir : Text}
    (hnow : now.IsProper) (hs : Sound s)
    (hrun : (into (options c dir indexDir minOrder) now elapsed files).run s = (.ok stats, s'))
    (hsame : SameCounts files later (Path.absolute files.homePath dir) c.maxOrder)
    (location : Text) :
    (c.maxOrder < Record.wordBound → ∃ finder, Finder.ofStore later s' location = .ok finder) ∧
    ∀ finder, Finder.ofStore later s' location = .ok finder →
      ∀ (foldsCase : Bool) (es : List (Text × Nat)), es.Perm (c.entries foldsCase) →
        let table := (FrequencyTable.ofEntries es).frequencies
        (∀ gram, finder.frequencies.freq gram = table.freq gram) ∧
          (minOrder = 1 → finder.frequencies.total = table.total) := by
  have hopen := ofStore_of_run (o := options c dir indexDir minOrder) hhome hmin hmax hnow hfile hs
    hrun hsame location
  refine ⟨fun horder => ⟨_, (hopen _).2 ⟨horder, rfl⟩⟩, fun finder hfinder foldsCase es hes => ?_⟩
  obtain ⟨-, rfl⟩ := (hopen finder).1 hfinder
  intro table
  constructor
  · intro gram
    have hserves := serves_source (options c dir indexDir minOrder) files c.file
    have htable := Corpus.freq_ofEntries hes hfold gram
    refine Eq.trans ?_ (congrArg Except.ok htable.symm)
    exact congrArg Except.ok (Index.freq_eq rfl rfl hserves gram)
  · intro hone
    have hbuilt : (built (options c dir indexDir minOrder) elapsed c.file).totalUnigrams =
        min ((c.file 1).ownSum c.foldsCase 1) Count.largest :=
      (totalUnigrams_built c.file hmin hmax).trans (if_pos hone)
    have htable := Corpus.total_ofEntries hes (Nat.le_trans hmin hmax)
    rw [hfold] at hbuilt
    exact congrArg Except.ok (hbuilt.trans htable.symm)

/-- The index of two orders in memory, and the table of their entries in reverse order: both know
`a b`, which is counted once as `A b`, and count `a` five times. -/
theorem frequencies_eq_table_twoOrders :
    ofTwoOrders.foldsCase = true ∧ twoOrders.HasHome ∧ (Moment.ofSeconds 0 0).IsProper ∧
      Sound Memory.empty ∧
      ∃ stats m' finder,
        (into (options ofTwoOrders ['.'] [] 1) (Moment.ofSeconds 0 0) 0 twoOrders).run
          Memory.empty = (.ok stats, m') ∧
        Finder.ofStore twoOrders m' [] = .ok finder ∧
        let table : Frequencies Error :=
          (FrequencyTable.ofEntries (ofTwoOrders.entries false).reverse).frequencies
        (∀ gram, finder.frequencies.freq gram = table.freq gram) ∧
          finder.frequencies.total = table.total ∧
          table.freq ['a', ' ', ' ', 'B'] = .ok 1 ∧ table.total = .ok 5 := by
  have hnow : (Moment.ofSeconds 0 0).IsProper :=
    ⟨⟨by decide, by decide, by decide, by decide⟩, by decide, by decide, by decide, by decide,
      by decide, by decide⟩
  have hsound : Sound Memory.empty := Text.Table.sorted_nil
  have hhome := indexable_ofTwoOrders.hasHome
  obtain ⟨stats, m', hrun⟩ : ∃ stats m',
      (into (options ofTwoOrders ['.'] [] 1) (Moment.ofSeconds 0 0) 0 twoOrders).run Memory.empty =
        (.ok stats, m') := ⟨_, _, rfl⟩
  obtain ⟨hopen, hagree⟩ := frequencies_eq_table (c := ofTwoOrders) rfl hhome
    indexable_ofTwoOrders.file_eq (by decide) (by decide) hnow hsound hrun (fun n _ _ => rfl) []
  obtain ⟨finder, hfinder⟩ := hopen (by decide)
  obtain ⟨hfreq, htotal⟩ := hagree finder hfinder false _ (List.reverse_perm _)
  exact ⟨rfl, hhome, hnow, hsound, stats, m', finder, hrun, hfinder, hfreq, htotal rfl, rfl, rfl⟩

end Indexer

end Kompositum

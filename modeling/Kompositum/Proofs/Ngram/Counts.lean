import Kompositum.Ngram.Finder
import Kompositum.Proofs.Text.Lower
import Kompositum.Proofs.Text.Table

/-!
# What count files say

A line of a count file counts a row of tokens. What an index knows of an order are the rows of that
many tokens, each with all its counts added up.

* `CountFile.rows`: the rows of tokens that the lines of a file count.
* `CountFile.tally`: how often the lines of a file count a row, all counts added up.
* `Indexer.mem_counts_iff`: the counts that are indexed.
* `CountFile.freq_unwords`: the frequency that scanning finds.
-/

namespace Kompositum

namespace Count

/-- The sum of some counts, however large. -/
def sum (ns : List Nat) : Nat := ns.foldr (· + ·) 0

@[simp] theorem sum_nil : sum [] = 0 := rfl

@[simp] theorem sum_cons (n : Nat) (ns : List Nat) : sum (n :: ns) = n + sum ns := rfl

/-- The sum of some counts does not depend on their order. -/
theorem sum_perm {ns ms : List Nat} (h : ns.Perm ms) : sum ns = sum ms :=
  h.foldr_eq' (fun a _ b _ c => Nat.add_left_comm b a c) 0

theorem le_sum {n : Nat} {ns : List Nat} (h : n ∈ ns) : n ≤ sum ns := by
  induction ns with
  | nil => cases h
  | cons m ns ih =>
    rw [sum_cons]
    rcases List.mem_cons.1 h with rfl | h
    · exact Nat.le_add_right n _
    · exact Nat.le_trans (ih h) (Nat.le_add_left _ m)

theorem add_le (a b : Nat) : add a b ≤ largest := Nat.min_le_right _ _

theorem le_of_ofText? {t : Text} {n : Nat} (h : ofText? t = some n) : n ≤ largest := by
  obtain ⟨-, hle⟩ := Option.filter_eq_some_iff.1 h
  exact of_decide_eq_true hle

/-- **Adding counts one by one** is adding them all, up to the largest count. -/
theorem foldl_add {a : Nat} (ha : a ≤ largest) (ns : List Nat) :
    ns.foldl add a = min (a + sum ns) largest := by
  induction ns generalizing a with
  | nil => rw [List.foldl_nil, sum_nil, Nat.add_zero, Nat.min_eq_left ha]
  | cons n ns ih =>
    rw [List.foldl_cons, ih (add_le a n), sum_cons, add]
    omega

/-- The counts of a row of pairs. -/
theorem foldl_add_snd {α : Type} (l : List (α × Nat)) :
    l.foldl (fun n e => add n e.2) 0 = min (sum (l.map Prod.snd)) largest := by
  rw [← List.foldl_map (f := Prod.snd) (g := add), foldl_add (Nat.zero_le _), Nat.zero_add]

end Count

namespace CountFile

variable (foldsCase : Bool)

/-- The row of tokens that a text counts, and its count: the words before the last, in small
letters if case is folded, and the last word. -/
def rowOf? (t : Text) : Option (List Text × Nat) := do
  let fields := Text.words t
  let count ← Count.ofText? (← fields.getLast?)
  let tokens := fields.dropLast
  if tokens.isEmpty then none else some (if foldsCase then tokens.map Text.lower else tokens, count)

/-- **The row of tokens that a line counts**, and its count. -/
def row? (line : Bytes) : Option (List Text × Nat) :=
  (Utf8.decode line).toOption.bind (rowOf? foldsCase)

/-- **The rows of tokens that the lines of a file count**, in file order. -/
def rows (f : CountFile) : List (List Text × Nat) := f.rawLines.filterMap (row? foldsCase)

/-- **How often the lines of a file count a row**, all counts added up. -/
def tally (f : CountFile) (tokens : List Text) : Nat :=
  Count.sum (((f.rows foldsCase).filter fun r => r.1 == tokens).map Prod.snd)

variable {foldsCase}

theorem rowOf?_eq_some_iff {t : Text} {r : List Text × Nat} :
    rowOf? foldsCase t = some r ↔
      ∃ tokens count, tokens ≠ [] ∧ Text.words t = tokens ++ [count] ∧
        Count.ofText? count = some r.2 ∧
        r.1 = if foldsCase then tokens.map Text.lower else tokens := by
  unfold rowOf?
  rcases List.eq_nil_or_concat (Text.words t) with hnil | ⟨tokens, count, hwords⟩
  · rw [hnil]
    simp
  · rw [List.concat_eq_append] at hwords
    rw [hwords]
    simp only [List.getLast?_concat, List.dropLast_concat, Option.bind_eq_bind,
      Option.bind_eq_some_iff]
    constructor
    · rintro ⟨c, hc, n, hn, hr⟩
      obtain rfl : count = c := by simpa using hc
      split at hr
      · cases hr
      · rename_i hne
        obtain rfl := Option.some.inj hr
        exact ⟨tokens, count, by simpa using hne, rfl, hn, rfl⟩
    · rintro ⟨tokens', count', hne, heq, hn, hr⟩
      obtain ⟨rfl, hc⟩ := List.append_inj' heq rfl
      obtain rfl := List.singleton_inj.1 hc
      refine ⟨count, by simp, r.2, hn, ?_⟩
      rw [if_neg (by simpa using hne), ← hr]

/-- **The gram of a text** is its row of tokens, written as a gram. -/
theorem parseCount?_eq (t : Text) :
    parseCount? foldsCase t = (rowOf? foldsCase t).map fun r => (Ngram.unwords r.1, r.2) := by
  unfold parseCount? rowOf?
  cases hlast : (Text.words t).getLast? with
  | none => simp [hlast]
  | some last =>
    cases hcount : Count.ofText? last with
    | none => simp [hlast, hcount]
    | some n =>
      by_cases hnil : (Text.words t).dropLast = []
      · simp [hlast, hnil]
      · cases foldsCase <;> simp [hlast, hcount, hnil, Ngram.unwords, Text.lower_join]

/-- The first words of a text are tokens. -/
theorem isToken_of_words {t : Text} {fields rest : List Text} (h : Text.words t = fields ++ rest) :
    ∀ w ∈ fields, Ngram.IsToken w := by
  intro w hw
  apply Text.mem_words
  rw [h]
  exact List.mem_append_left rest hw

theorem isToken_of_mem_rows {f : CountFile} {r : List Text × Nat} (h : r ∈ f.rows foldsCase) :
    r.1 ≠ [] ∧ ∀ t ∈ r.1, Ngram.IsToken t := by
  obtain ⟨line, -, hr⟩ := List.mem_filterMap.1 h
  obtain ⟨t, -, hr⟩ := Option.bind_eq_some_iff.1 hr
  obtain ⟨tokens, count, hne, hwords, -, hr⟩ := rowOf?_eq_some_iff.1 hr
  have htokens := isToken_of_words hwords
  rw [hr]
  cases foldsCase with
  | false => exact ⟨hne, htokens⟩
  | true =>
    refine ⟨by simpa using hne, fun w hw => ?_⟩
    obtain ⟨v, hv, rfl⟩ := List.mem_map.1 hw
    exact (htokens v hv).lower

/-- **The entries of a file** are its rows, written as grams. -/
theorem entries_eq (f : CountFile) :
    f.entries foldsCase = (f.rows foldsCase).map fun r => (Ngram.unwords r.1, r.2) := by
  unfold entries lines rows
  rw [List.filterMap_map, List.map_filterMap]
  congr 1
  funext line
  unfold row? CountLine.ofBytes
  simp only [Function.comp_apply]
  cases Utf8.decode line with
  | error fault => rfl
  | ok t =>
    have hrow : rowOf? foldsCase (Text.dropReturns t) = rowOf? foldsCase t := by
      unfold rowOf?
      rw [Text.words_dropReturns]
    have hrhs : (Except.ok (ε := Utf8.Fault) t).toOption.bind (rowOf? foldsCase) =
        rowOf? foldsCase t := rfl
    simp only [hrhs]
    -- a blank line has no words, hence no row
    by_cases hblank : Text.isBlankText (Text.dropReturns t) = true
    · have hnone : rowOf? foldsCase t = none := by
        unfold rowOf?
        rw [← Text.words_dropReturns, Text.words_eq_nil_iff.2 (List.all_eq_true.1 hblank)]
        rfl
      rw [if_pos hblank, hnone]
      rfl
    · rw [if_neg hblank, parseCount?_eq, hrow]
      cases rowOf? foldsCase t <;> rfl

/-- Whether a line says something, well-formed or not: it is no text, or not all white space. -/
def isFilled (line : Bytes) : Bool :=
  match Utf8.decode line with
  | .ok t => !Text.isBlankText t
  | .error _ => true

/-- The lines that say nothing are those that are read as blank. -/
theorem isFilled_eq (foldsCase : Bool) (line : Bytes) :
    isFilled line = decide (CountLine.ofBytes foldsCase line ≠ .blank) := by
  unfold isFilled CountLine.ofBytes
  cases Utf8.decode line with
  | error fault => simp
  | ok t =>
    simp only [Text.isBlankText_dropReturns]
    by_cases hblank : Text.isBlankText t = true
    · simp [hblank]
    · cases hcount : parseCount? foldsCase (Text.dropReturns t) with
      | none => simp [hblank]
      | some e => simp [hblank]

/-- **Every line that says something** is malformed or an entry, and no other line is. -/
theorem countP_isFilled (foldsCase : Bool) (f : CountFile) :
    f.rawLines.countP isFilled = f.malformed foldsCase + (f.entries foldsCase).length := by
  have hlines : f.rawLines.countP isFilled =
      (f.lines foldsCase).countP fun line => decide (line ≠ .blank) := by
    unfold lines
    rw [List.countP_map]
    exact List.countP_congr fun line _ => by rw [isFilled_eq foldsCase]; rfl
  rw [hlines]
  unfold malformed entries
  induction f.lines foldsCase with
  | nil => rfl
  | cons line lines ih =>
    rw [List.countP_cons, ih, List.count_cons, List.filterMap_cons]
    cases line with
    | blank => simp
    | malformed => simp [Nat.add_right_comm]
    | entry gram n => simp [Nat.add_assoc]

/-- **The count of a row** is part of its tally, and is no larger than a count may be. -/
theorem le_tally {f : CountFile} {r : List Text × Nat} (h : r ∈ f.rows foldsCase) :
    r.2 ≤ min (f.tally foldsCase r.1) Count.largest := by
  have htally : r.2 ≤ f.tally foldsCase r.1 := by
    apply Count.le_sum
    exact List.mem_map.2 ⟨r, List.mem_filter.2 ⟨h, beq_self_eq_true r.1⟩, rfl⟩
  obtain ⟨line, -, hr⟩ := List.mem_filterMap.1 h
  obtain ⟨t, -, hr⟩ := Option.bind_eq_some_iff.1 hr
  obtain ⟨tokens, count, -, -, hcount, -⟩ := rowOf?_eq_some_iff.1 hr
  exact Nat.le_min.2 ⟨htally, Count.le_of_ofText? hcount⟩

/-- Two rows are written as the same gram when they are the same. -/
theorem unwords_eq_iff {f : CountFile} {r : List Text × Nat} (hr : r ∈ f.rows foldsCase)
    {tokens : List Text} (h : ∀ t ∈ tokens, Ngram.IsToken t) :
    Ngram.unwords r.1 = Ngram.unwords tokens ↔ r.1 = tokens :=
  ⟨Ngram.unwords_inj (isToken_of_mem_rows hr).2 h, fun heq => by rw [heq]⟩

/-- The counts of a gram among the entries of a file are those of its row. -/
theorem counts_of_gram (f : CountFile) {tokens : List Text}
    (h : ∀ t ∈ tokens, Ngram.IsToken t) :
    ((f.entries foldsCase).filter fun e => e.1 == Ngram.unwords tokens).map Prod.snd =
      ((f.rows foldsCase).filter fun r => r.1 == tokens).map Prod.snd := by
  rw [entries_eq, List.filter_map, List.map_map]
  have hfilter : (f.rows foldsCase).filter
      ((fun e : Text × Nat => e.1 == Ngram.unwords tokens) ∘
        fun r => (Ngram.unwords r.1, r.2)) =
      (f.rows foldsCase).filter fun r => r.1 == tokens := by
    refine List.filter_congr fun r hr => ?_
    rw [Function.comp_apply, Bool.eq_iff_iff, beq_iff_eq, beq_iff_eq]
    exact unwords_eq_iff hr h
  rw [hfilter]
  rfl

/-- **The frequency that scanning finds** is the tally, up to the largest count. -/
theorem freq_unwords (f : CountFile) {tokens : List Text} (h : ∀ t ∈ tokens, Ngram.IsToken t) :
    f.freq (Ngram.unwords tokens) foldsCase = min (f.tally foldsCase tokens) Count.largest := by
  unfold freq tally
  rw [Count.foldl_add_snd, counts_of_gram f h]

end CountFile

namespace Indexer

open Text (Table)

variable {foldsCase : Bool}

/-! ## Adding up -/

theorem sorted_merge {t : Table Nat} (h : t.Sorted) (e : Text × Nat) : (merge t e).Sorted :=
  h.alter e.1 _

theorem get?_merge {t : Table Nat} (h : t.Sorted) (e : Text × Nat) (key : Text) :
    Table.get? key (merge t e) =
      if key = e.1 then some (Count.add ((t.get? e.1).getD 0) e.2) else t.get? key :=
  h.get?_alter e.1 _ key

theorem sorted_foldl_merge {t : Table Nat} (h : t.Sorted) (es : List (Text × Nat)) :
    (es.foldl merge t).Sorted := by
  induction es generalizing t with
  | nil => exact h
  | cons e es ih => exact ih (sorted_merge h e)

/-- **Merging entries** adds their counts to the one that a gram has already. -/
theorem getD_foldl_merge {t : Table Nat} (h : t.Sorted) (key : Text)
    (hle : (t.get? key).getD 0 ≤ Count.largest) (es : List (Text × Nat)) :
    ((es.foldl merge t).get? key).getD 0 =
      min ((t.get? key).getD 0 + Count.sum ((es.filter fun e => e.1 == key).map Prod.snd))
        Count.largest := by
  induction es generalizing t with
  | nil =>
    rw [List.foldl_nil, List.filter_nil, List.map_nil, Count.sum_nil, Nat.add_zero]
    exact (Nat.min_eq_left hle).symm
  | cons e es ih =>
    have hmerge := get?_merge h e key
    -- an entry of this gram adds its count, others leave the gram as it is
    by_cases hkey : key = e.1
    · subst hkey
      rw [if_pos rfl] at hmerge
      have hrest := ih (sorted_merge h e) (by
        rw [hmerge]
        exact Count.add_le _ _)
      rw [List.foldl_cons, hrest, hmerge, List.filter_cons_of_pos (by simp), List.map_cons,
        Count.sum_cons, Option.getD_some, Count.add]
      omega
    · rw [if_neg hkey] at hmerge
      have hrest := ih (sorted_merge h e) (by rwa [hmerge])
      rw [List.foldl_cons, hrest, hmerge, List.filter_cons_of_neg (by simpa using Ne.symm hkey)]

/-- Merging entries adds their grams. -/
theorem isSome_foldl_merge {t : Table Nat} (h : t.Sorted) (key : Text) (es : List (Text × Nat)) :
    ((es.foldl merge t).get? key).isSome = true ↔
      (t.get? key).isSome = true ∨ ∃ e ∈ es, e.1 = key := by
  induction es generalizing t with
  | nil => simp
  | cons e es ih =>
    rw [List.foldl_cons, ih (sorted_merge h e), get?_merge h]
    by_cases hkey : key = e.1
    · simp [hkey]
    · simp [hkey, Ne.symm hkey]

/-! ## What is indexed -/

theorem sorted_counts (order : Nat) (f : CountFile) : (counts foldsCase order f).Sorted :=
  sorted_foldl_merge Table.sorted_nil _

/-- A gram is of an order when its row has as many tokens. -/
theorem hasOrder_unwords {order : Nat} {tokens : List Text} (n : Nat) (hne : tokens ≠ [])
    (h : ∀ t ∈ tokens, Ngram.IsToken t) :
    hasOrder order (Ngram.unwords tokens, n) = true ↔ tokens.length = order := by
  rw [hasOrder, Ngram.pieces_unwords hne h, beq_iff_eq]

/-- The entries of an order are the rows of as many tokens. -/
theorem mem_ofOrder_iff {order : Nat} {f : CountFile} {gram : Text} {n : Nat} :
    (gram, n) ∈ (f.entries foldsCase).filter (hasOrder order) ↔
      ∃ tokens, (tokens, n) ∈ f.rows foldsCase ∧ tokens.length = order ∧
        gram = Ngram.unwords tokens := by
  rw [List.mem_filter, CountFile.entries_eq, List.mem_map]
  constructor
  · rintro ⟨⟨r, hr, heq⟩, horder⟩
    obtain ⟨rfl, rfl⟩ := Prod.mk.inj heq
    obtain ⟨hne, htoken⟩ := CountFile.isToken_of_mem_rows hr
    exact ⟨r.1, hr, (hasOrder_unwords _ hne htoken).1 horder, rfl⟩
  · rintro ⟨tokens, hr, horder, rfl⟩
    obtain ⟨hne, htoken⟩ := CountFile.isToken_of_mem_rows hr
    exact ⟨⟨_, hr, rfl⟩, (hasOrder_unwords _ hne htoken).2 horder⟩

variable (foldsCase) in
/-- **The count of a gram** is the tally of its row, up to the largest count. -/
theorem getD_counts (f : CountFile) {tokens : List Text} (hne : tokens ≠ [])
    (h : ∀ t ∈ tokens, Ngram.IsToken t) :
    ((counts foldsCase tokens.length f).get? (Ngram.unwords tokens)).getD 0 =
      min (f.tally foldsCase tokens) Count.largest := by
  have hfilter : ((f.entries foldsCase).filter (hasOrder tokens.length)).filter
      (fun e => e.1 == Ngram.unwords tokens) =
        (f.entries foldsCase).filter fun e => e.1 == Ngram.unwords tokens := by
    rw [List.filter_filter]
    refine List.filter_congr fun e _ => ?_
    cases heq : e.1 == Ngram.unwords tokens with
    | false => rfl
    | true =>
      have hgram : e = (Ngram.unwords tokens, e.2) := Prod.ext (eq_of_beq heq) rfl
      rw [hgram]
      exact (hasOrder_unwords e.2 hne h).2 rfl
  unfold counts
  rw [getD_foldl_merge Table.sorted_nil _ (Nat.zero_le _), hfilter, CountFile.counts_of_gram f h]
  exact congrArg (min · Count.largest) (Nat.zero_add _)

/-- **The counts that are indexed** are those of the rows of as many tokens as the order says, each
with its tally, up to the largest count. -/
theorem mem_counts_iff {order : Nat} {f : CountFile} {gram : Text} {n : Nat} :
    (gram, n) ∈ counts foldsCase order f ↔
      ∃ tokens, (∃ k, (tokens, k) ∈ f.rows foldsCase) ∧ tokens.length = order ∧
        gram = Ngram.unwords tokens ∧ n = min (f.tally foldsCase tokens) Count.largest := by
  -- a gram has a count when some row of the order is written like it
  have hsome : ((counts foldsCase order f).get? gram).isSome = true ↔
      ∃ tokens, (∃ k, (tokens, k) ∈ f.rows foldsCase) ∧ tokens.length = order ∧
        gram = Ngram.unwords tokens := by
    unfold counts
    rw [isSome_foldl_merge Table.sorted_nil]
    constructor
    · rintro (hnone | ⟨e, he, rfl⟩)
      · cases hnone
      · obtain ⟨tokens, hr, horder, hgram⟩ := mem_ofOrder_iff.1 he
        exact ⟨tokens, ⟨_, hr⟩, horder, hgram⟩
    · rintro ⟨tokens, ⟨k, hr⟩, horder, hgram⟩
      exact .inr ⟨(gram, k), mem_ofOrder_iff.2 ⟨tokens, hr, horder, hgram⟩, rfl⟩
  rw [← (sorted_counts order f).get?_eq_some_iff]
  constructor
  · intro hget
    obtain ⟨tokens, ⟨k, hr⟩, rfl, rfl⟩ := hsome.1 (by rw [hget]; rfl)
    obtain ⟨hne, htoken⟩ := CountFile.isToken_of_mem_rows hr
    have hval := getD_counts foldsCase f hne htoken
    rw [hget, Option.getD_some] at hval
    exact ⟨tokens, ⟨k, hr⟩, rfl, rfl, hval⟩
  · rintro ⟨tokens, ⟨k, hr⟩, rfl, rfl, rfl⟩
    obtain ⟨hne, htoken⟩ := CountFile.isToken_of_mem_rows hr
    obtain ⟨n, hn⟩ := Option.isSome_iff_exists.1 (hsome.2 ⟨tokens, ⟨k, hr⟩, rfl, rfl⟩)
    rw [← getD_counts foldsCase f hne htoken, hn, Option.getD_some]

/-- **Every gram that is indexed** has as many tokens as its order says, and nothing around them. -/
theorem pieces_of_mem_counts {order : Nat} {f : CountFile} {e : Text × Nat}
    (h : e ∈ counts foldsCase order f) :
    (Ngram.pieces e.1).length = order ∧ Text.words e.1 = Ngram.pieces e.1 := by
  obtain ⟨gram, n⟩ := e
  obtain ⟨tokens, ⟨k, hr⟩, horder, rfl, -⟩ := mem_counts_iff.1 h
  obtain ⟨hne, htoken⟩ := CountFile.isToken_of_mem_rows hr
  rw [Ngram.pieces_unwords hne htoken, Ngram.words_unwords htoken]
  exact ⟨horder, rfl⟩

end Indexer

end Kompositum

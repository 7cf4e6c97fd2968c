import Kompositum.Proofs.Lexicon.Beginnings
import Kompositum.Proofs.Lexicon.Dictionary
import Kompositum.Proofs.Text.Reverse

/-!
# Words of a dictionary in its tries

The tries of a dictionary are asked with keys that are folded when they are looked up. Forward this
finds every word of the dictionary, in whatever case it is written. In reverse the word is read from
its end before it is folded, so that a word is found in every dictionary that holds it only if its
small letters can be read from the end.

* `Dictionary.Kept.successors_forward`, `successors_reverse`: the counts over the words as they are
  written, and over the words read from their ends.
* `Dictionary.Counts`: a trie has a node for a word, which counts the words that go on after it, or
  those that lead to it.
* `Dictionary.counts_iff_symmetric`: forward tries count every word, and reverse tries the symmetric
  ones.
-/

namespace Kompositum

namespace Trie

theorem ofDictionary_eq (direction : Direction) (d : Dictionary) :
    ofDictionary direction d =
      additions direction d.foldsCase (d.words.map (empty direction d.foldsCase).key) := by
  have hrun : ∀ (ws : List Text) (t : Trie),
      ws.foldl (fun t w => t.add (t.key w)) t = (ws.map t.key).foldl add t := by
    intro ws
    induction ws with
    | nil => exact fun _ => rfl
    | cons w ws ih => exact fun t => ih (t.add (t.key w))
  exact hrun d.words (empty direction d.foldsCase)

theorem key_ofDictionary (direction : Direction) (d : Dictionary) :
    (ofDictionary direction d).key = (empty direction d.foldsCase).key := by
  rw [ofDictionary_eq, additions_eq]
  rfl

theorem key_ne_nil (t : Trie) {w : Text} (hw : w ≠ []) : t.key w ≠ [] := by
  unfold key
  split
  · exact hw
  · exact mt List.reverse_eq_nil_iff.1 hw

end Trie

namespace Dictionary

variable {d : Dictionary} {direction : Direction} {s u w x : Text} {o : DictionaryOptions}

/-! ## Words that begin or end with a text -/

/-- **The words that go on after a beginning.** -/
def continuing (d : Dictionary) (start : Text) : Finset Text :=
  {w ∈ d.words.toFinset | start <+: w ∧ start ≠ w}

/-- **The words that lead to an ending.** -/
def leading (d : Dictionary) (ending : Text) : Finset Text :=
  {w ∈ d.words.toFinset | ending <:+ w ∧ ending ≠ w}

/-- The words that properly begin with a text, or end with it. -/
def extending (d : Dictionary) (direction : Direction) (t : Text) : Finset Text :=
  match direction with
  | .forward => d.continuing t
  | .reverse => d.leading t

theorem Kept.card_filter (h : d.Kept) (p : Text → Prop) [DecidablePred p] :
    {w ∈ d.words.toFinset | p w}.card = d.words.countP fun w => decide (p w) := by
  have hfilter : {w ∈ d.words.toFinset | p w} =
      (d.words.filter fun w => decide (p w)).toFinset := by
    ext w
    simp
  rw [hfilter, List.toFinset_card_of_nodup (h.nodup.filter _), List.countP_eq_length_filter]

/-- The keys that go on after the key of a text are those of the words that begin or end with it. -/
theorem Kept.continued_key (h : d.Kept) (direction : Direction) (u : Text) :
    Text.continued ((Trie.empty direction d.foldsCase).key u)
        (d.words.map (Trie.empty direction d.foldsCase).key) =
      (d.extending direction u).card := by
  rw [Text.continued, List.countP_map]
  cases direction with
  | forward =>
    rw [extending, continuing, h.card_filter]
    rfl
  | reverse =>
    rw [extending, leading, h.card_filter]
    refine List.countP_congr fun w _ => ?_
    have hkey : ∀ v, (Trie.empty .reverse d.foldsCase).key v = v.reverse := fun _ => rfl
    rw [Function.comp_apply, hkey, hkey, decide_eq_true_eq, decide_eq_true_eq,
      List.reverse_prefix, Ne, List.reverse_inj]

/-! ## The tries of a dictionary -/

/-- **The trie in a direction counts a word**: the node of its key says how many words of the
dictionary properly begin or end with it. -/
def Counts (d : Dictionary) (direction : Direction) (x : Text) : Prop :=
  ∃ node, (Trie.ofDictionary direction d).find? ((Trie.ofDictionary direction d).key x) =
      some node ∧
    node.successors = (d.extending direction (d.normalize x)).card

/-- A text in the form in which a dictionary keeps words, read in some direction. -/
theorem IsNormal.key (h : d.IsNormal w) (t : Trie) : d.IsNormal (t.key w) := by
  unfold Trie.key
  split
  · exact h
  · exact h.of_subset (List.reverse_subset.2 fun _ hc => hc)

theorem Kept.keys_eq (h : d.Kept) (direction : Direction) :
    Trie.keys direction d.foldsCase (d.words.map (Trie.empty direction d.foldsCase).key) =
      d.words.map (Trie.empty direction d.foldsCase).key := by
  rw [Trie.keys, List.map_map]
  refine List.map_congr_left fun w hw => ?_
  exact ((h.normal w hw).key _).normalize_eq

/-- **The node of a beginning** in the trie of a dictionary. -/
theorem Kept.find?_ofDictionary (h : d.Kept) (hs : s ≠ []) (hu : d.normalize s = u) :
    (Trie.ofDictionary direction d).find? s =
      if ∃ k ∈ d.words.map (Trie.empty direction d.foldsCase).key, u <+: k then
        some ⟨Text.continued u (d.words.map (Trie.empty direction d.foldsCase).key),
          (Text.followers u (d.words.map (Trie.empty direction d.foldsCase).key)).card⟩
      else none := by
  rw [Trie.ofDictionary_eq, Trie.find?_additions hs hu, h.keys_eq]

/-- **The count at the key of a text** is that of the words that begin or end with it. -/
theorem Kept.successors_key (h : d.Kept) (direction : Direction) (hne : u ≠ [])
    (hu : d.IsNormal u) :
    (Trie.ofDictionary direction d).successors ((Trie.empty direction d.foldsCase).key u) =
      (d.extending direction u).card := by
  have hfold := (hu.key (Trie.empty direction d.foldsCase)).normalize_eq
  rw [Trie.ofDictionary_eq, Trie.successors_additions (Trie.key_ne_nil _ hne) hfold, h.keys_eq,
    h.continued_key]

/-- The forward trie counts the words that go on after a beginning. -/
theorem Kept.successors_forward (h : d.Kept) {start : Text} (hne : start ≠ [])
    (hstart : d.IsNormal start) :
    (Trie.ofDictionary .forward d).successors start = (d.continuing start).card :=
  h.successors_key .forward hne hstart

/-- The reverse trie counts the words that lead to an ending. -/
theorem Kept.successors_reverse (h : d.Kept) {ending : Text} (hne : ending ≠ [])
    (hending : d.IsNormal ending) :
    (Trie.ofDictionary .reverse d).successors ending.reverse = (d.leading ending).card :=
  h.successors_key .reverse hne hending

/-- **A word is counted** if its key is folded to the key of the form in which it is kept. -/
theorem Kept.counts (h : d.Kept) (hmem : d.contains x = true) (hne : x ≠ [])
    (hkey : d.normalize ((Trie.empty direction d.foldsCase).key x) =
      (Trie.empty direction d.foldsCase).key (d.normalize x)) : d.Counts direction x := by
  have hword : d.normalize x ∈ d.words := contains_iff.1 hmem
  have hfound : ∃ k ∈ d.words.map (Trie.empty direction d.foldsCase).key,
      (Trie.empty direction d.foldsCase).key (d.normalize x) <+: k :=
    ⟨_, List.mem_map_of_mem hword, List.prefix_rfl⟩
  unfold Counts
  rw [Trie.key_ofDictionary, h.find?_ofDictionary (Trie.key_ne_nil _ hne) hkey, if_pos hfound]
  exact ⟨_, rfl, h.continued_key direction _⟩

/-- **A reverse trie that finds a word** has read its small letters from the end. -/
theorem Kept.normalize_reverse_of_counts (h : d.Kept) (hx : x ≠ [])
    (hone : ∀ w ∈ d.words, w = d.normalize x) (hcounts : d.Counts .reverse x) :
    d.normalize x.reverse = (d.normalize x).reverse := by
  obtain ⟨node, hnode, -⟩ := hcounts
  rw [Trie.key_ofDictionary] at hnode
  have hfind : (Trie.ofDictionary .reverse d).find? x.reverse = _ :=
    h.find?_ofDictionary (mt List.reverse_eq_nil_iff.1 hx) rfl
  have hkey : (Trie.empty .reverse d.foldsCase).key x = x.reverse := rfl
  rw [hkey, hfind] at hnode
  split at hnode
  case isFalse => cases hnode
  case isTrue hfound =>
    obtain ⟨k, hk, hprefix⟩ := hfound
    obtain ⟨w, hw, rfl⟩ := List.mem_map.1 hk
    rw [hone w hw] at hprefix
    have hrev : (Trie.empty .reverse d.foldsCase).key (d.normalize x) = (d.normalize x).reverse :=
      rfl
    rw [hrev] at hprefix
    refine hprefix.eq_of_length ?_
    unfold normalize
    split
    · rw [Text.length_lower_reverse, List.length_reverse]
    · rfl

theorem normalize_reverse_iff (d : Dictionary) (t : Text) :
    d.normalize t.reverse = (d.normalize t).reverse ↔ (d.foldsCase = true → t.Symmetric) := by
  unfold normalize
  split
  case isTrue hfold => rw [Text.lower_reverse_iff, forall_prop_of_true hfold]
  case isFalse hfold => exact iff_of_true rfl fun h => absurd h hfold

/-- **Forward tries count every word of their dictionary**, in whatever case it is written. Reverse
tries count a word in all dictionaries that hold it exactly if they do not fold case or the word is
symmetric. -/
theorem counts_iff_symmetric (o : DictionaryOptions) (x : Text) (hx : x ≠ []) :
    (∀ ws, (ofList o ws).contains x = true → (ofList o ws).Counts .forward x) ∧
    ((∀ ws, (ofList o ws).contains x = true → (ofList o ws).Counts .reverse x) ↔
      ((∃ ws, (ofList o ws).contains x = true) → o.foldsCase = true → x.Symmetric)) := by
  refine ⟨fun ws hmem => (kept_ofList o ws).counts hmem hx rfl, fun hall => ?_,
    fun hsymm ws hmem => ?_⟩
  · rintro ⟨ws, hmem⟩
    rw [← foldsCase_ofList o ws]
    -- a dictionary that holds nothing but the word
    obtain ⟨w, -, htakes, hw⟩ := mem_words_ofList_iff.1 (contains_iff.1 hmem)
    have hfolds : (ofList o [w]).foldsCase = (ofList o ws).foldsCase := by
      rw [foldsCase_ofList, foldsCase_ofList]
    have hword : (empty o.foldsCase).normalize (Text.trim w) = (ofList o [w]).normalize x := by
      rw [hw, normalize_congr hfolds]
    have hone : ∀ v, v ∈ (ofList o [w]).words ↔ v = (ofList o [w]).normalize x := by
      intro v
      rw [mem_words_ofList_iff]
      simp [htakes, hword, eq_comm]
    have hcounts := hall [w] (contains_iff.2 ((hone _).2 rfl))
    have hreverse := (kept_ofList o [w]).normalize_reverse_of_counts hx
      (fun v hv => (hone v).1 hv) hcounts
    rw [← hfolds]
    exact (normalize_reverse_iff _ _).1 hreverse
  · have hkey : (ofList o ws).normalize x.reverse = ((ofList o ws).normalize x).reverse := by
      rw [normalize_reverse_iff, foldsCase_ofList]
      exact hsymm ⟨ws, hmem⟩
    exact (kept_ofList o ws).counts hmem hx hkey

/-- A capital sigma at the end of a word: in small letters it is another one than at the beginning,
where the reverse trie sees it. -/
theorem finalSigma_not_counted :
    ['Α', 'Σ'] ≠ [] ∧
      ¬∀ ws, (ofList {} ws).contains ['Α', 'Σ'] = true →
        (ofList {} ws).Counts .reverse ['Α', 'Σ'] := by
  refine ⟨by decide, fun hall => ?_⟩
  have hsymm := (counts_iff_symmetric {} ['Α', 'Σ'] (by decide)).2.1 hall
    ⟨[['Α', 'Σ']], by decide +kernel⟩ rfl
  exact absurd (hsymm.2 ['Α'] [] rfl) (by decide +kernel)

end Dictionary

end Kompositum

import Kompositum.Ngram.Segment
import Kompositum.Proofs.Text.Table

/-!
# Looking up in a segment

A segment finds what a walk over all its grams would find: every token is posted with exactly the
positions of the grams that hold it, so that no gram is missed in the positions of one token.

* `Segment.occurrences`: the positions of the grams that hold a token.
* `Segment.get?_postings_ofCounts`: what is posted for a token.
* `Segment.find_ofCounts`: the grams that a query is found in.
* `Segment.freq?_eq_get?`: the frequency that halving finds.
-/

namespace Kompositum

namespace Ngram

/-- A query that stands among tokens has all its own tokens among them. -/
theorem mem_of_leads {query tokens : List Text} (h : leads query tokens = true) {t : Text}
    (ht : t ∈ query) : t ∈ tokens := by
  induction query generalizing tokens with
  | nil => simp at ht
  | cons q query ih =>
    cases tokens with
    | nil => simp [leads] at h
    | cons u tokens =>
      simp only [leads, Bool.and_eq_true, decide_eq_true_eq] at h
      rcases List.mem_cons.1 ht with rfl | ht
      · rw [h.1]
        exact List.mem_cons_self
      · exact List.mem_cons_of_mem u (ih h.2 ht)

theorem mem_of_containsRun {tokens query : List Text} (h : containsRun tokens query = true)
    {t : Text} (ht : t ∈ query) : t ∈ tokens := by
  have hstands := (Bool.and_eq_true_iff.1 h).2
  clear h
  induction tokens with
  | nil =>
    have hnil : query = [] := by simpa [standsIn] using hstands
    simp [hnil] at ht
  | cons u tokens ih =>
    rw [standsIn, Bool.or_eq_true] at hstands
    rcases hstands with hleads | hstands
    · exact mem_of_leads hleads ht
    · exact List.mem_cons_of_mem u (ih hstands)

theorem leads_iff {query tokens : List Text} : leads query tokens = true ↔ query <+: tokens := by
  induction query generalizing tokens with
  | nil => simp [leads]
  | cons q query ih =>
    cases tokens with
    | nil => simp [leads]
    | cons u tokens => simp [leads, ih, List.cons_prefix_cons]

/-- **Whether the tokens of a query stand one after the other** among others. -/
theorem containsRun_iff {tokens query : List Text} :
    containsRun tokens query = true ↔ query ≠ [] ∧ query <:+: tokens := by
  have hstands : standsIn query tokens = true ↔ query <:+: tokens := by
    induction tokens with
    | nil => simp [standsIn]
    | cons u tokens ih => rw [standsIn, Bool.or_eq_true, leads_iff, ih, List.infix_cons_iff]
  simp [containsRun, hstands]

/-- An empty query stands in no gram. -/
theorem filter_containsRun_nil (l : List (Text × Nat)) :
    l.filter (fun e => containsRun (pieces e.1) []) = [] :=
  List.filter_eq_nil_iff.2 fun _ _ hrun => (containsRun_iff.1 hrun).1 rfl

end Ngram

namespace Segment

open Text (Table)

/-! ## What is posted -/

/-- **The positions of the grams that hold a token**, where the first gram has position `id`. -/
def occurrences (token : Text) (id : Nat) : List (Text × Nat) → List Nat
  | [] => []
  | g :: rest =>
    if (Ngram.pieces g.1).contains token then id :: occurrences token (id + 1) rest
    else occurrences token (id + 1) rest

theorem occurrences_bounds {token : Text} {id : Nat} {grams : List (Text × Nat)} :
    ∀ i ∈ occurrences token id grams, id ≤ i ∧ i < id + grams.length := by
  induction grams generalizing id with
  | nil => simp [occurrences]
  | cons g grams ih =>
    have hrest : ∀ i ∈ occurrences token (id + 1) grams,
        id ≤ i ∧ i < id + (g :: grams).length := by
      intro i hi
      have := ih i hi
      rw [List.length_cons]
      omega
    intro i hi
    rw [occurrences] at hi
    split at hi
    · rcases List.mem_cons.1 hi with rfl | hi
      · rw [List.length_cons]
        omega
      · exact hrest i hi
    · exact hrest i hi

/-- A token that has a position stands in a gram. -/
theorem exists_of_occurrences_ne_nil {token : Text} {id : Nat} {grams : List (Text × Nat)}
    (h : occurrences token id grams ≠ []) : ∃ g ∈ grams, token ∈ Ngram.pieces g.1 := by
  induction grams generalizing id with
  | nil => exact absurd rfl h
  | cons g grams ih =>
    rw [occurrences] at h
    split at h
    · rename_i hg
      exact ⟨g, List.mem_cons_self, by simpa using hg⟩
    · obtain ⟨g', hg', htoken⟩ := ih h
      exact ⟨g', List.mem_cons_of_mem g hg', htoken⟩

theorem length_occurrences_le (token : Text) (id : Nat) (grams : List (Text × Nat)) :
    (occurrences token id grams).length ≤ grams.length := by
  induction grams generalizing id with
  | nil => exact Nat.le_refl 0
  | cons g grams ih =>
    have := ih (id + 1)
    rw [occurrences, List.length_cons]
    split
    · rw [List.length_cons]
      omega
    · omega

/-- A list with one more position, unless that is already the last. -/
def addLast (id : Nat) (ids : List Nat) : List Nat :=
  if ids.getLast? = some id then ids else ids ++ [id]

theorem addLast_addLast (id : Nat) (ids : List Nat) :
    addLast id (addLast id ids) = addLast id ids := by
  by_cases h : ids.getLast? = some id
  · rw [addLast, addLast, if_pos h, if_pos h]
  · have hlast : (ids ++ [id]).getLast? = some id := by simp
    simp only [addLast, if_neg h, if_pos hlast]

theorem get?_post {t : Table (List Nat)} (h : t.Sorted) (id : Nat) (token w : Text) :
    Table.get? token (post id t w) =
      if token = w then some (addLast id ((t.get? w).getD [])) else t.get? token :=
  h.get?_alter w _ token

/-- A gram posts its tokens, each of them once. -/
theorem get?_foldl_post {t : Table (List Nat)} (h : t.Sorted) (id : Nat) (ws : List Text)
    (token : Text) :
    (ws.foldl (post id) t).Sorted ∧
      Table.get? token (ws.foldl (post id) t) =
        if ws.contains token then some (addLast id ((t.get? token).getD []))
        else t.get? token := by
  induction ws generalizing t with
  | nil => exact ⟨h, rfl⟩
  | cons w ws ih =>
    have hpost : (post id t w).Sorted := h.alter w _
    obtain ⟨hsorted, hget⟩ := ih hpost
    refine ⟨hsorted, ?_⟩
    rw [List.foldl_cons, hget, get?_post h]
    by_cases hw : token = w
    · subst hw
      have hmem : (token :: ws).contains token = true := by simp
      rw [if_pos rfl, if_pos hmem]
      split
      · rw [Option.getD_some, addLast_addLast]
      · rfl
    · have hcons : (w :: ws).contains token = ws.contains token := by
        simp [hw]
      rw [if_neg hw, hcons]

/-- **Posting one gram**, whose position is higher than all before: it is added to the positions of
its tokens. -/
theorem post_gram {t : Table (List Nat)} (h : t.Sorted) {id : Nat}
    (hlt : ∀ p ∈ t, ∀ i ∈ p.2, i < id) (ws : List Text) :
    (∀ token, Table.get? token (ws.foldl (post id) t) =
      if ws.contains token then some ((t.get? token).getD [] ++ [id]) else t.get? token) ∧
    ∀ p ∈ ws.foldl (post id) t, ∀ i ∈ p.2, i < id + 1 := by
  have hold : ∀ token, ∀ i ∈ (t.get? token).getD [], i < id := by
    intro token i hi
    cases hget : t.get? token with
    | none => simp [hget] at hi
    | some ids =>
      rw [hget, Option.getD_some] at hi
      exact hlt _ (Table.mem_of_get? hget) i hi
  have hadd : ∀ token, addLast id ((t.get? token).getD []) = (t.get? token).getD [] ++ [id] :=
    fun token => if_neg fun hlast =>
      Nat.lt_irrefl _ (hold token id (List.mem_of_getLast? hlast))
  have hget : ∀ token, Table.get? token (ws.foldl (post id) t) =
      if ws.contains token then some ((t.get? token).getD [] ++ [id]) else t.get? token := by
    intro token
    rw [(get?_foldl_post h id ws token).2, hadd]
  refine ⟨hget, fun p hp i hi => ?_⟩
  have hval := (get?_foldl_post h id ws p.1).1.get?_eq_some_iff.2 hp
  rw [hget] at hval
  split at hval
  · rw [← Option.some.inj hval, List.mem_append, List.mem_singleton] at hi
    rcases hi with hi | rfl
    · exact Nat.lt_succ_of_lt (hold p.1 i hi)
    · exact Nat.lt_succ_self i
  · exact Nat.lt_succ_of_lt (hlt p (Table.mem_of_get? hval) i hi)

/-- **Posting grams** adds their positions to those that a token has already. -/
theorem get?_postingsFrom {t : Table (List Nat)} (h : t.Sorted) {id : Nat}
    (hlt : ∀ p ∈ t, ∀ i ∈ p.2, i < id) (grams : List (Text × Nat)) (token : Text) :
    (postingsFrom id t grams).Sorted ∧
      Table.get? token (postingsFrom id t grams) =
        if (occurrences token id grams).isEmpty then t.get? token
        else some ((t.get? token).getD [] ++ occurrences token id grams) := by
  induction grams generalizing id t with
  | nil => exact ⟨h, rfl⟩
  | cons g grams ih =>
    obtain ⟨hget, hlt'⟩ := post_gram h hlt (Ngram.pieces g.1)
    obtain ⟨hsorted, hrest⟩ := ih (get?_foldl_post h id (Ngram.pieces g.1) token).1 hlt'
    refine ⟨hsorted, ?_⟩
    rw [postingsFrom, hrest, hget, occurrences]
    split
    · rename_i hnone
      rw [List.isEmpty_iff] at hnone
      rw [hnone]
      split <;> simp
    · split
      · simp
      · rfl

theorem sorted_postings_ofCounts (order : Nat) (counts : Table Nat) :
    (ofCounts order counts).postings.Sorted :=
  (get?_postingsFrom Table.sorted_nil (by simp) counts []).1

/-- **What is posted for a token**: the positions of the grams that hold it, if there are any. -/
theorem get?_postings_ofCounts (order : Nat) (counts : Table Nat) (token : Text) :
    (ofCounts order counts).postings.get? token =
      if (occurrences token 0 counts).isEmpty then none else some (occurrences token 0 counts) :=
  (get?_postingsFrom Table.sorted_nil (by simp) counts token).2

theorem mem_postings_ofCounts {order : Nat} {counts : Table Nat} {p : Text × List Nat}
    (h : p ∈ (ofCounts order counts).postings) :
    p.2 = occurrences p.1 0 counts ∧ occurrences p.1 0 counts ≠ [] := by
  have hget := (sorted_postings_ofCounts order counts).get?_eq_some_iff.2 h
  rw [get?_postings_ofCounts] at hget
  split at hget
  · cases hget
  · rename_i hne
    exact ⟨(Option.some.inj hget).symm, fun hnil => hne (by rw [hnil]; rfl)⟩

/-- No more tokens are posted than stand in the grams. -/
theorem length_postingsFrom_le (id : Nat) (t : Table (List Nat)) (grams : List (Text × Nat)) :
    (postingsFrom id t grams).length ≤
      t.length + (grams.flatMap fun g => Ngram.pieces g.1).length := by
  have hfold : ∀ (id : Nat) (ws : List Text) (t : Table (List Nat)),
      (ws.foldl (post id) t).length ≤ t.length + ws.length := by
    intro id ws
    induction ws with
    | nil => exact fun t => Nat.le_refl _
    | cons w ws ih =>
      intro t
      have hpost : (post id t w).length ≤ t.length + 1 := Table.length_alter_le t w _
      have := ih (post id t w)
      rw [List.foldl_cons, List.length_cons]
      omega
  induction grams generalizing id t with
  | nil => exact Nat.le_add_right _ _
  | cons g grams ih =>
    have hfirst := hfold id (Ngram.pieces g.1) t
    have hrest := ih (id + 1) ((Ngram.pieces g.1).foldl (post id) t)
    rw [postingsFrom, List.flatMap_cons, List.length_append]
    omega

theorem termCount_ofCounts_le (order : Nat) (counts : Table Nat) :
    (ofCounts order counts).termCount ≤ (counts.flatMap fun g => Ngram.pieces g.1).length := by
  have hle := length_postingsFrom_le 0 [] counts
  rwa [List.length_nil, Nat.zero_add] at hle

/-! ## Finding grams -/

theorem getElem?_occurrences (token : Text) (before grams : List (Text × Nat)) :
    (occurrences token before.length grams).filterMap (fun id => (before ++ grams)[id]?) =
      grams.filter fun g => (Ngram.pieces g.1).contains token := by
  induction grams generalizing before with
  | nil => rfl
  | cons g grams ih =>
    have hrest := ih (before ++ [g])
    rw [List.length_append, List.length_singleton, List.append_assoc,
      List.singleton_append] at hrest
    have hhere : (before ++ g :: grams)[before.length]? = some g := by simp
    rw [occurrences]
    split
    · rename_i hg
      rw [List.filterMap_cons, hhere, hrest, List.filter_cons, if_pos hg]
    · rename_i hg
      rw [hrest, List.filter_cons, if_neg hg]

/-- The shortest list is one of them. -/
theorem shortest_mem (l : List Nat) (ls : List (List Nat)) : shortest l ls ∈ l :: ls := by
  induction ls generalizing l with
  | nil => exact List.mem_cons_self
  | cons m ms ih =>
    rw [shortest]
    rcases List.mem_cons.1 (ih (if m.length < l.length then m else l)) with h | h
    · rw [h]
      split
      · exact List.mem_cons_of_mem l List.mem_cons_self
      · exact List.mem_cons_self
    · exact List.mem_cons_of_mem l (List.mem_cons_of_mem m h)

theorem mapM_eq_some {α β : Type} {f : α → Option β} {g : α → β} {t : List α}
    (h : ∀ a ∈ t, f a = some (g a)) : t.mapM f = some (t.map g) := by
  induction t with
  | nil => rfl
  | cons a t ih =>
    rw [List.mapM_cons, h a List.mem_cons_self, ih fun b hb => h b (List.mem_cons_of_mem a hb)]
    rfl

theorem mapM_eq_none {α β : Type} {f : α → Option β} {t : α} {ts : List α} (ht : t ∈ ts)
    (h : f t = none) : ts.mapM f = none := by
  induction ts with
  | nil => simp at ht
  | cons u us ih =>
    rw [List.mapM_cons]
    rcases List.mem_cons.1 ht with rfl | ht
    · rw [h]
      rfl
    · rw [ih ht]
      cases f u <;> rfl

/-- The positions that a query is looked for in are those of one of its tokens, or some token does
not occur. -/
theorem candidates_ofCounts (order : Nat) (counts : Table Nat) {query : List Text}
    (hne : query ≠ []) : ∃ token ∈ query,
      (ofCounts order counts).candidates query = occurrences token 0 counts := by
  have hget := get?_postings_ofCounts order counts
  unfold candidates
  by_cases hmissing : ∃ token ∈ query, occurrences token 0 counts = []
  · obtain ⟨token, ht, hnone⟩ := hmissing
    refine ⟨token, ht, ?_⟩
    rw [mapM_eq_none ht (by rw [hget, hnone]; rfl), hnone]
  · have hsome := mapM_eq_some (f := (ofCounts order counts).postings.get?)
      (g := fun token => occurrences token 0 counts) (t := query) fun token ht => by
        rw [hget, if_neg]
        exact fun hnone => hmissing ⟨token, ht, List.isEmpty_iff.1 hnone⟩
    obtain ⟨q, qs, rfl⟩ := List.exists_cons_of_ne_nil hne
    have hmem : shortest (occurrences q 0 counts)
        (qs.map fun token => occurrences token 0 counts) ∈
          (q :: qs).map fun token => occurrences token 0 counts := shortest_mem _ _
    obtain ⟨token, ht, heq⟩ := List.mem_map.1 hmem
    rw [hsome]
    exact ⟨token, ht, heq.symm⟩

/-- **At the positions of a token** stand all the grams that contain a query with this token. -/
theorem filter_occurrences {query : List Text} {token : Text} (h : token ∈ query)
    (counts : Table Nat) :
    ((occurrences token 0 counts).filterMap fun id => counts[id]?).filter
        (fun e => Ngram.containsRun (Ngram.pieces e.1) query) =
      counts.filter fun e => Ngram.containsRun (Ngram.pieces e.1) query := by
  have hpos : (occurrences token 0 counts).filterMap (fun id => counts[id]?) =
      counts.filter fun g => (Ngram.pieces g.1).contains token :=
    getElem?_occurrences token [] counts
  rw [hpos, List.filter_filter]
  refine List.filter_congr fun e _ => ?_
  -- where the query stands, there is its token
  have htokens : Ngram.containsRun (Ngram.pieces e.1) query = true →
      (Ngram.pieces e.1).contains token = true := by
    intro hrun
    simpa using Ngram.mem_of_containsRun hrun h
  cases hrun : Ngram.containsRun (Ngram.pieces e.1) query with
  | false => rfl
  | true => exact htokens hrun

/-- **The grams that a query is found in** are those in which its tokens stand one after the
other. -/
theorem find_ofCounts (order : Nat) (counts : Table Nat) (query : List Text) :
    (ofCounts order counts).find query =
      if order < query.length then []
      else (counts.filter fun e => Ngram.containsRun (Ngram.pieces e.1) query).map
        fun e => ⟨e.1, order, e.2⟩ := by
  have horder : (ofCounts order counts).order = order := rfl
  have hgrams : (ofCounts order counts).grams = counts := rfl
  unfold find
  rw [horder, hgrams]
  by_cases hlen : order < query.length
  · rw [if_pos hlen, if_pos hlen]
  · rw [if_neg hlen, if_neg hlen]
    refine congrArg (List.map _) ?_
    by_cases hne : query = []
    · subst hne
      rw [Ngram.filter_containsRun_nil, Ngram.filter_containsRun_nil]
    · obtain ⟨token, htoken, hids⟩ := candidates_ofCounts order counts hne
      rw [hids]
      exact filter_occurrences htoken counts

/-! ## Frequencies -/

/-- What is found of a key in an entry. -/
def valueAt (key : Text) (e : Option (Text × Nat)) : Option Nat :=
  match e with
  | some (g, n) => if g = key then some n else none
  | none => none

/-- The entry in the middle, and how the others lie around it. -/
theorem half_entry {l : Table Nat} (h : l.Sorted) (hl : ¬l.length ≤ 1) :
    ∃ e, l[l.length / 2]? = some e ∧
      (∀ y ∈ l.take (l.length / 2), Text.before y.1 e.1 = true) ∧
      ∀ y ∈ l.drop (l.length / 2), y = e ∨ Text.before e.1 y.1 = true := by
  have hlt : l.length / 2 < l.length := by omega
  have hdrop := List.drop_eq_getElem_cons hlt
  have hsorted : Table.Sorted (l.take (l.length / 2) ++ l.drop (l.length / 2)) := by
    rwa [List.take_append_drop]
  obtain ⟨-, hright, hcross⟩ := List.pairwise_append.1 hsorted
  rw [hdrop] at hright hcross ⊢
  refine ⟨_, List.getElem?_eq_getElem hlt, fun y hy => hcross y hy _ List.mem_cons_self,
    fun y hy => ?_⟩
  exact (List.mem_cons.1 hy).imp_right ((Table.sorted_cons.1 hright).1 y)

/-- **Halving finds the entry of a key**, if there is one. -/
theorem valueAt_narrow {key : Text} {l : Table Nat} (h : l.Sorted) :
    valueAt key (narrow key l) = l.get? key := by
  fun_induction narrow key l with
  | case1 l hl =>
    match l, hl with
    | [], _ => rfl
    | [(g, n)], _ => rfl
  | case2 l hl half hbefore ih =>
    obtain ⟨e, hget, -, hright⟩ := half_entry h hl
    have hkey : Text.before key e.1 = true := by
      rw [hget] at hbefore
      exact hbefore
    -- what is left out comes after the entry in the middle
    have hnone : Table.get? key (l.drop (l.length - half)) = none := by
      refine Table.Sorted.get?_eq_none_of_before fun y hy => ?_
      have hle : l.length - half = half + (l.length - half - half) := by omega
      rw [hle, ← List.drop_drop] at hy
      rcases hright y (List.mem_of_mem_drop hy) with rfl | hlater
      · exact hkey
      · exact Text.before_trans hkey hlater
    have hsplit := Table.get?_append (l.take (l.length - half)) (l.drop (l.length - half)) key
    rw [List.take_append_drop, hnone, Option.or_none] at hsplit
    rw [ih (h.sublist (List.take_sublist _ l)), hsplit]
  | case3 l hl half hbefore ih =>
    obtain ⟨e, hget, hleft, -⟩ := half_entry h hl
    have hkey : ¬Text.before key e.1 = true := by
      rw [hget] at hbefore
      exact hbefore
    -- what is left out comes before the entry in the middle, and the key does not
    have hnone : Table.get? key (l.take half) = none := by
      rw [Table.get?_eq_none_iff]
      intro hm
      obtain ⟨y, hy, rfl⟩ := List.mem_map.1 hm
      exact hkey (hleft y hy)
    have hsplit := Table.get?_append (l.take half) (l.drop half) key
    rw [List.take_append_drop, hnone, Option.none_or] at hsplit
    rw [ih (h.sublist (List.drop_sublist _ l)), hsplit]

/-- **The frequency of a gram** in a segment whose grams are in ascending order. -/
theorem freq?_eq_get? {s : Segment} (h : Table.Sorted s.grams) (gram : Text) :
    s.freq? gram = Table.get? gram s.grams := valueAt_narrow h

end Segment

end Kompositum

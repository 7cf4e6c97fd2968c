import Kompositum.Proofs.Lexicon.Trie
import Kompositum.Proofs.Text.Lower
import Mathlib.Data.Finset.Card
import Mathlib.Data.List.Infix

/-!
# The beginnings that a trie knows

A trie has one node for every beginning of its keys, the empty one apart. What it says of a
beginning is a fact about the keys as a collection: how many of them go on after it, and with how
many letters.

* `Branches.Reaches`: there is a node for a beginning. One more key adds its own beginnings
  (`reaches_add`).
* `Branches.Distinct`: no letter follows a beginning twice. One more key keeps it (`Distinct.add`),
  and the nodes of such branches are as many as their beginnings (`mem_starts_iff`,
  `nodup_starts`).
* `Trie.additions_nodes`: what a trie says after any row of additions.
-/

namespace Kompositum

namespace Text

/-! ## Rows of keys -/

variable {c : Char} {s : Text} {ks ls : List Text}

/-- The number of keys, with repetitions, that go on after a beginning. -/
def continued (s : Text) (ks : List Text) : Nat := ks.countP fun k => decide (s <+: k ∧ s ≠ k)

/-- **The letters that follow a beginning** in some keys. -/
def followers (s : Text) (ks : List Text) : Finset Char :=
  (ks.filterMap fun k => (stripPrefix? s k).bind List.head?).toFinset

/-- **The beginnings of some keys**, the empty one apart. -/
def beginnings (ks : List Text) : Finset Text := (ks.flatMap List.inits).toFinset.erase []

theorem mem_followers_iff : c ∈ followers s ks ↔ ∃ k ∈ ks, s ++ [c] <+: k := by
  rw [followers, List.mem_toFinset, List.mem_filterMap]
  refine exists_congr fun k => and_congr_right fun _ => ?_
  rw [Option.bind_eq_some_iff]
  constructor
  · rintro ⟨r, hr, hc⟩
    obtain ⟨t, rfl⟩ := List.head?_eq_some_iff.1 hc
    exact ⟨t, by rw [stripPrefix?_eq_some_iff.1 hr, List.append_assoc]; rfl⟩
  · rintro ⟨t, rfl⟩
    exact ⟨c :: t, stripPrefix?_eq_some_iff.2 (by simp), rfl⟩

theorem mem_beginnings_iff : s ∈ beginnings ks ↔ s ≠ [] ∧ ∃ k ∈ ks, s <+: k := by
  simp [beginnings]

theorem continued_eq_zero (h : ∀ k ∈ ks, ¬s <+: k) : continued s ks = 0 := by
  rw [continued, List.countP_eq_zero]
  intro k hk
  simp [h k hk]

/-- **The order of the keys** does not matter. -/
theorem perm_continued (h : ks.Perm ls) (s : Text) : continued s ks = continued s ls :=
  h.countP_eq _

theorem perm_followers (h : ks.Perm ls) (s : Text) : followers s ks = followers s ls := by
  ext c
  simp only [mem_followers_iff, h.mem_iff]

theorem perm_beginnings (h : ks.Perm ls) : beginnings ks = beginnings ls := by
  ext s
  simp only [mem_beginnings_iff, h.mem_iff]

end Text

namespace Branches

variable {b : Branches} {c : Char} {s k : Text} {n : Nat}

/-- The letters that follow the beginning. -/
def letters : Branches → List Char
  | nil => []
  | branch c _ _ next => c :: next.letters

/-- **No letter follows a beginning twice.** -/
def Distinct : Branches → Prop
  | nil => True
  | branch c _ below next => c ∉ next.letters ∧ below.Distinct ∧ next.Distinct

/-- The beginnings that the nodes stand for. -/
def starts : Branches → List Text
  | nil => []
  | branch c _ below next => [c] :: (below.starts.map (c :: ·) ++ next.starts)

/-- **There is a node for a beginning.** -/
def Reaches (b : Branches) (s : Text) : Prop := (b.find? 0 s).isSome = true

theorem length_letters (b : Branches) : b.letters.length = b.width := by
  induction b with
  | nil => rfl
  | branch c n below next _ ih =>
    rw [letters, List.length_cons, ih, width, Nat.add_comm]

theorem length_starts (b : Branches) : b.starts.length = b.size := by
  induction b with
  | nil => rfl
  | branch c n below next ihb ihn =>
    rw [starts, List.length_cons, List.length_append, List.length_map, ihb, ihn, size]
    omega

theorem isSome_step?_iff : (b.step? c).isSome = true ↔ c ∈ b.letters := by
  induction b with
  | nil => simp [step?, letters]
  | branch d n below next _ ih =>
    rw [step?, letters, List.mem_cons, ← ih]
    split <;> simp_all

theorem step_of_notMem (hc : c ∉ b.letters) : b.step c = (0, nil) := by
  have hnone : b.step? c = none := by
    rw [← Option.not_isSome_iff_eq_none]
    exact fun h => hc (isSome_step?_iff.1 h)
  unfold step
  rw [hnone]
  rfl

/-! ## Reaching a beginning -/

theorem isSome_find?_eq (b : Branches) (m n : Nat) (s : Text) :
    (b.find? m s).isSome = (b.find? n s).isSome := by
  cases s with
  | nil => rfl
  | cons c t => rfl

theorem reaches_nil (b : Branches) : b.Reaches [] := rfl

theorem reaches_cons {t : Text} : b.Reaches (c :: t) ↔ c ∈ b.letters ∧ (b.step c).2.Reaches t := by
  unfold Reaches step
  rw [find?, ← isSome_step?_iff]
  cases b.step? c with
  | none => simp
  | some node =>
    obtain ⟨m, below⟩ := node
    simp [isSome_find?_eq below m 0 t]

theorem not_reaches_of_nil (hs : s ≠ []) : ¬nil.Reaches s := by
  cases s with
  | nil => exact absurd rfl hs
  | cons c t => exact Bool.false_ne_true

theorem mem_letters_add {d : Char} : d ∈ (add (c :: k) b).letters ↔ d = c ∨ d ∈ b.letters := by
  rw [← isSome_step?_iff, step?_add, ← isSome_step?_iff]
  split <;> simp_all

/-- **One more key** adds its own beginnings. -/
theorem reaches_add : (add k b).Reaches s ↔ b.Reaches s ∨ s <+: k := by
  induction s generalizing b k with
  | nil => simp [reaches_nil]
  | cons c t ih =>
    cases k with
    | nil => simp [add]
    | cons d k =>
      rw [reaches_cons, reaches_cons, mem_letters_add, step_add, List.cons_prefix_cons]
      by_cases hcd : c = d
      · subst hcd
        rw [if_pos rfl, ih]
        by_cases hc : c ∈ b.letters
        · simp [hc]
        · -- nothing follows a letter that is not there
          rw [step_of_notMem hc]
          cases t with
          | nil => simp [reaches_nil]
          | cons e u => simp [hc, not_reaches_of_nil]
      · simp [hcd]

theorem reaches_foldl_add (ks : List Text) (b : Branches) :
    (ks.foldl (fun b k => add k b) b).Reaches s ↔ b.Reaches s ∨ ∃ k ∈ ks, s <+: k := by
  induction ks generalizing b with
  | nil => simp
  | cons k ks ih =>
    rw [List.foldl_cons, ih, reaches_add, or_assoc]
    simp

/-! ## Letters and beginnings are listed once -/

theorem letters_add : (add (c :: k) b).letters =
    if c ∈ b.letters then b.letters else b.letters ++ [c] := by
  induction b with
  | nil => simp [add, chain, letters]
  | branch d n below next _ ih =>
    rw [add]
    by_cases hcd : c = d
    · rw [if_pos hcd]
      simp [letters, hcd]
    · rw [if_neg hcd, letters, ih, letters]
      split <;> simp_all

theorem distinct_chain (k : Text) : (chain k).Distinct := by
  induction k with
  | nil => trivial
  | cons c k ih => exact ⟨List.not_mem_nil, ih, trivial⟩

/-- **One more key** keeps letters distinct. -/
theorem Distinct.add (hb : b.Distinct) (k : Text) : (add k b).Distinct := by
  induction k, b using Branches.add.induct with
  | case1 b =>
    rw [Branches.add]
    exact hb
  | case2 c t => exact distinct_chain (c :: t)
  | case3 t d n below next ih =>
    obtain ⟨hd, hbelow, hnext⟩ := hb
    rw [Branches.add, if_pos rfl]
    exact ⟨hd, ih hbelow, hnext⟩
  | case4 c t d n below next hcd ih =>
    obtain ⟨hd, hbelow, hnext⟩ := hb
    rw [Branches.add, if_neg hcd]
    refine ⟨?_, hbelow, ih hnext⟩
    rw [letters_add]
    split
    · exact hd
    · simp [hd, Ne.symm hcd]

theorem distinct_foldl_add (ks : List Text) : (ks.foldl (fun b k => add k b) nil).Distinct := by
  have hrun : ∀ {b : Branches}, b.Distinct → (ks.foldl (fun b k => add k b) b).Distinct := by
    induction ks with
    | nil => exact id
    | cons k ks ih => exact fun hb => ih (hb.add k)
  exact hrun trivial

theorem Distinct.nodup_letters (hb : b.Distinct) : b.letters.Nodup := by
  induction b with
  | nil => exact .nil
  | branch c n below next _ ih => exact List.nodup_cons.2 ⟨hb.1, ih hb.2.2⟩

theorem Distinct.step? (hb : b.Distinct) {m : Nat} {below : Branches}
    (h : b.step? c = some (m, below)) : below.Distinct := by
  induction b with
  | nil => cases h
  | branch d n first next _ ih =>
    rw [Branches.step?] at h
    split at h
    · obtain ⟨rfl, rfl⟩ := Prod.mk.inj (Option.some.inj h)
      exact hb.2.1
    · exact ih hb.2.2 h

theorem Distinct.find? (hb : b.Distinct) {m : Nat} {below : Branches}
    (h : b.find? n s = some (m, below)) : below.Distinct := by
  induction s generalizing b n with
  | nil =>
    obtain ⟨rfl, rfl⟩ := Prod.mk.inj (Option.some.inj h)
    exact hb
  | cons c t ih =>
    obtain ⟨⟨j, first⟩, hstep, hrest⟩ := Option.bind_eq_some_iff.1 h
    exact ih (hb.step? hstep) hrest

/-- **The beginnings that the nodes stand for** are those that are reached. -/
theorem mem_starts_iff (hb : b.Distinct) : s ∈ b.starts ↔ s ≠ [] ∧ b.Reaches s := by
  induction b generalizing s with
  | nil =>
    simp only [starts, List.not_mem_nil, false_iff, not_and]
    exact not_reaches_of_nil
  | branch c n below next ihb ihn =>
    obtain ⟨hc, hbelow, hnext⟩ := hb
    rw [starts, List.mem_cons, List.mem_append, List.mem_map, ihn hnext]
    cases s with
    | nil => simp
    | cons d t =>
      rw [reaches_cons, reaches_cons, letters, List.mem_cons, step_branch]
      by_cases hdc : d = c
      · -- the later branches do not begin with the letter
        subst hdc
        rw [if_pos rfl]
        by_cases ht : t = []
        · simp [ht, reaches_nil]
        · simp [ht, hc, ihb hbelow]
      · simp [hdc, Ne.symm hdc]

theorem mem_letters_of_mem_starts (hb : b.Distinct) (h : c :: s ∈ b.starts) : c ∈ b.letters :=
  (reaches_cons.1 ((mem_starts_iff hb).1 h).2).1

/-- Every beginning has one node. -/
theorem nodup_starts (hb : b.Distinct) : b.starts.Nodup := by
  induction b with
  | nil => exact .nil
  | branch c n below next ihb ihn =>
    obtain ⟨hc, hbelow, hnext⟩ := hb
    have hlater : ∀ t, c :: t ∉ next.starts := fun t h => hc (mem_letters_of_mem_starts hnext h)
    have hempty : [] ∉ below.starts := fun h => ((mem_starts_iff hbelow).1 h).1 rfl
    rw [starts, List.nodup_cons, List.mem_append, not_or, List.nodup_append]
    refine ⟨⟨by simpa using hempty, hlater []⟩, ?_, ihn hnext, ?_⟩
    · exact (ihb hbelow).map (List.cons_injective)
    · rintro t ht u hu rfl
      obtain ⟨v, -, rfl⟩ := List.mem_map.1 ht
      exact hlater v hu

/-! ## The node of a beginning -/

theorem find?_append (b : Branches) (n : Nat) (s : Text) (c : Char) :
    b.find? n (s ++ [c]) = (b.find? n s).bind fun x => x.2.step? c := by
  induction s generalizing b n with
  | nil =>
    rw [List.nil_append, find?, find?, Option.bind_some]
    cases b.step? c with
    | none => rfl
    | some node => rfl
  | cons d t ih =>
    rw [List.cons_append, find?, find?]
    cases b.step? d with
    | none => rfl
    | some node => exact ih node.2 node.1

/-- **The letters at a node** are those with which its beginning goes on. -/
theorem mem_letters_iff_reaches {m : Nat} {below : Branches} (h : b.find? 0 s = some (m, below)) :
    c ∈ below.letters ↔ b.Reaches (s ++ [c]) := by
  unfold Reaches
  rw [find?_append, h, ← isSome_step?_iff]
  rfl

/-- The branches of some keys. -/
def ofKeys (ks : List Text) : Branches := ks.foldl (fun b k => add k b) nil

theorem reaches_ofKeys {ks : List Text} (hs : s ≠ []) :
    (ofKeys ks).Reaches s ↔ ∃ k ∈ ks, s <+: k := by
  unfold ofKeys
  rw [reaches_foldl_add, or_iff_right (not_reaches_of_nil hs)]

/-- **The node of a beginning** says how many keys go on after it, and with how many letters. -/
theorem find?_ofKeys (hs : s ≠ []) (ks : List Text) :
    ((ofKeys ks).find? 0 s).map (fun x => (x.1, x.2.width)) =
      if ∃ k ∈ ks, s <+: k then some (Text.continued s ks, (Text.followers s ks).card)
      else none := by
  have hreaches : (ofKeys ks).Reaches s ↔ _ := reaches_ofKeys hs
  cases h : (ofKeys ks).find? 0 s with
  | none =>
    unfold Reaches at hreaches
    rw [h] at hreaches
    rw [if_neg fun hk => Bool.false_ne_true (hreaches.2 hk)]
    rfl
  | some node =>
    obtain ⟨m, below⟩ := node
    have hcount : m = Text.continued s ks := by
      have hks := count_foldl_add hs ks nil
      rw [nil_count, Nat.zero_add] at hks
      rw [Text.continued, ← hks]
      have hm : (ofKeys ks).count s = m := by
        unfold count
        rw [h]
        rfl
      exact hm.symm
    have hwidth : below.width = (Text.followers s ks).card := by
      have hletters : below.letters.toFinset = Text.followers s ks := by
        ext c
        rw [List.mem_toFinset, mem_letters_iff_reaches h, reaches_ofKeys (by simp),
          Text.mem_followers_iff]
      rw [← hletters, List.toFinset_card_of_nodup ((distinct_foldl_add ks).find? h).nodup_letters,
        length_letters]
    rw [if_pos (hreaches.1 (by unfold Reaches; rw [h]; rfl)), hcount, ← hwidth]
    rfl

/-- **There is a node for every beginning** of the keys. -/
theorem size_ofKeys (ks : List Text) : (ofKeys ks).size = (Text.beginnings ks).card := by
  have hdistinct : (ofKeys ks).Distinct := distinct_foldl_add ks
  have hstarts : (ofKeys ks).starts.toFinset = Text.beginnings ks := by
    ext s
    rw [List.mem_toFinset, mem_starts_iff hdistinct, Text.mem_beginnings_iff]
    exact and_congr_right reaches_ofKeys
  rw [← hstarts, List.toFinset_card_of_nodup (nodup_starts hdistinct), length_starts]

end Branches

/-! ## What a trie says of its keys -/

namespace Trie

variable {direction : Direction} {foldsCase : Bool} {s : Text} {ws : List Text}

/-- A new trie after a row of additions. -/
def additions (direction : Direction) (foldsCase : Bool) (ws : List Text) : Trie :=
  ws.foldl add (empty direction foldsCase)

/-- The forms in which such a trie keeps its keys. -/
def keys (direction : Direction) (foldsCase : Bool) (ws : List Text) : List Text :=
  ws.map (empty direction foldsCase).fold

theorem additions_eq (direction : Direction) (foldsCase : Bool) (ws : List Text) :
    additions direction foldsCase ws =
      ⟨direction, foldsCase, .ofKeys (keys direction foldsCase ws)⟩ := by
  have hrun : ∀ t : Trie, ws.foldl add t =
      { t with branches := (ws.map t.fold).foldl (fun b k => Branches.add k b) t.branches } := by
    induction ws with
    | nil => exact fun _ => rfl
    | cons w ws ih => exact fun t => ih (t.add w)
  exact hrun (empty direction foldsCase)

theorem fold_ne_nil (t : Trie) (hs : s ≠ []) : t.fold s ≠ [] := by
  unfold fold
  split
  · exact Text.lower_ne_nil hs
  · exact hs

/-- **The node of a beginning** after a row of additions. -/
theorem find?_additions {u : Text} (hs : s ≠ []) (hu : (empty direction foldsCase).fold s = u) :
    (additions direction foldsCase ws).find? s =
      if ∃ k ∈ keys direction foldsCase ws, u <+: k then
        some ⟨Text.continued u (keys direction foldsCase ws),
          (Text.followers u (keys direction foldsCase ws)).card⟩
      else none := by
  have hempty : s.isEmpty = false := List.isEmpty_eq_false_iff.2 hs
  have hnode := Branches.find?_ofKeys (hu ▸ fold_ne_nil _ hs) (keys direction foldsCase ws)
  have hfind : (additions direction foldsCase ws).find? s =
      (((Branches.ofKeys (keys direction foldsCase ws)).find? 0 u).map
        fun x => (x.1, x.2.width)).map fun x => ⟨x.1, x.2⟩ := by
    rw [additions_eq, find?, hempty, if_neg Bool.false_ne_true, Option.map_map, ← hu]
    rfl
  rw [hfind, hnode]
  split <;> rfl

theorem successors_additions {u : Text} (hs : s ≠ [])
    (hu : (empty direction foldsCase).fold s = u) :
    (additions direction foldsCase ws).successors s =
      Text.continued u (keys direction foldsCase ws) := by
  unfold successors
  rw [find?_additions hs hu]
  split
  case isTrue => rfl
  case isFalse hnone => exact (Text.continued_eq_zero fun k hk hp => hnone ⟨k, hk, hp⟩).symm

/-- **What a trie says after any row of additions.** A beginning has a node exactly if some key
begins with it; the node counts the keys that go on after it, with repetitions, and the letters with
which they do. There is a node for every beginning of a key, and the order of the keys does not
matter. -/
theorem additions_nodes (direction : Direction) (foldsCase : Bool) (ws : List Text) :
    let t := additions direction foldsCase ws
    let fold := (empty direction foldsCase).fold
    (∀ s, s ≠ [] → ((t.find? s).isSome = true ↔ ∃ w ∈ ws, fold s <+: fold w) ∧
      t.successors s = Text.continued (fold s) (ws.map fold) ∧
      ∀ node, t.find? s = some node → node.successors = Text.continued (fold s) (ws.map fold) ∧
        node.branching = (Text.followers (fold s) (ws.map fold)).card) ∧
    t.size = (Text.beginnings (ws.map fold)).card ∧
    ∀ vs, vs.Perm ws → (∀ s, (additions direction foldsCase vs).find? s = t.find? s) ∧
      (additions direction foldsCase vs).size = t.size := by
  intro t fold
  have hsize : ∀ us, (additions direction foldsCase us).size =
      (Text.beginnings (us.map fold)).card := by
    intro us
    rw [additions_eq]
    exact Branches.size_ofKeys _
  refine ⟨fun s hs => ⟨?_, successors_additions hs rfl, fun node h => ?_⟩, hsize ws,
    fun vs hvs => ⟨fun s => ?_, ?_⟩⟩
  · rw [find?_additions hs rfl, keys]
    split
    case isTrue h => simpa using h
    case isFalse h => simpa using h
  · rw [find?_additions hs rfl] at h
    split at h
    case isTrue =>
      obtain rfl := Option.some.inj h
      exact ⟨rfl, rfl⟩
    case isFalse => cases h
  · by_cases hs : s = []
    · rw [hs]
      rfl
    · have hkeys : (keys direction foldsCase vs).Perm (keys direction foldsCase ws) := hvs.map fold
      rw [find?_additions hs rfl, find?_additions hs rfl, Text.perm_continued hkeys,
        Text.perm_followers hkeys]
      simp only [hkeys.mem_iff]
  · rw [hsize, hsize, Text.perm_beginnings (hvs.map fold)]

end Trie

end Kompositum

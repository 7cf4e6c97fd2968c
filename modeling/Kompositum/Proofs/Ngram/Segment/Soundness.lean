import Kompositum.Proofs.Ngram.Segment.Contents
import Kompositum.Proofs.Ngram.Segment.Storage

/-!
# Segments of any origin

A file that is read as a segment need not have been written as one. Its grams may stand in any
order, a token may come more than once, and the positions of a token need not be those of the grams
that hold it. Then grams may be missed; but every gram that is found is one of the file that
contains the query, with the frequency that stands there, and nothing is looked up beyond the grams.

* `Segment.mem_of_find`, `Segment.mem_of_freq?`: what is found is a gram of the segment.
* `Segment.probes`: the positions that halving looks at.
* `Segment.load_sound`: a segment that is loaded answers with what stands in its file.
-/

namespace Kompositum

namespace Segment

open Reader
open Text (Table)

/-! ## What is found -/

/-- **What is posted for a token** stands in the file behind this token. -/
theorem mem_of_get?_posted {terms : List (Text × List Nat)} {token : Text} {ids : List Nat}
    (h : (posted terms).get? token = some ids) : (token, ids) ∈ terms := by
  have hfold : ∀ (terms : List (Text × List Nat)) (t : Table (List Nat)),
      Table.get? token (terms.foldl (fun t p => t.insert p.1 p.2) t) = some ids →
        (token, ids) ∈ terms ∨ t.get? token = some ids := by
    intro terms
    induction terms with
    | nil => exact fun t h => .inr h
    | cons p terms ih =>
      intro t h
      rcases ih (t.insert p.1 p.2) h with hlater | hhere
      · exact .inl (List.mem_cons_of_mem p hlater)
      · by_cases hp : token = p.1
        · subst hp
          rw [Table.get?_insert_self] at hhere
          obtain rfl := Option.some.inj hhere
          exact .inl List.mem_cons_self
        · rw [Table.get?_insert_of_ne t p.2 hp] at hhere
          exact .inr hhere
  rcases hfold terms [] h with hmem | hnone
  · exact hmem
  · cases hnone

theorem exists_of_mapM_eq_some {α β : Type} {f : α → Option β} {l : List α} {bs : List β}
    (h : l.mapM f = some bs) : ∀ b ∈ bs, ∃ a ∈ l, f a = some b := by
  induction l generalizing bs with
  | nil =>
    cases h
    simp
  | cons a l ih =>
    rw [List.mapM_cons] at h
    obtain ⟨b, hb, hrest⟩ := Option.bind_eq_some_iff.1 h
    obtain ⟨cs, hcs, hcons⟩ := Option.bind_eq_some_iff.1 hrest
    obtain rfl := Option.some.inj hcons
    intro c hc
    rcases List.mem_cons.1 hc with rfl | hc
    · exact ⟨a, List.mem_cons_self, hb⟩
    · obtain ⟨a', ha', hc'⟩ := ih hcs c hc
      exact ⟨a', List.mem_cons_of_mem a ha', hc'⟩

/-- The positions that a query is looked for at are all posted for one of its tokens. -/
theorem exists_of_mem_candidates {s : Segment} {query : List Text} {id : Nat}
    (h : id ∈ s.candidates query) :
    ∃ token ∈ query, ∃ ids, s.postings.get? token = some ids ∧ id ∈ ids := by
  unfold candidates at h
  split at h
  · rename_i l ls hlists
    obtain ⟨token, htoken, hget⟩ := exists_of_mapM_eq_some hlists _ (shortest_mem l ls)
    exact ⟨token, htoken, _, hget, h⟩
  · cases h

/-- **A gram that is found** is one of the segment that contains the query. -/
theorem mem_of_find {s : Segment} {query : List Text} {g : Gram} (h : g ∈ s.find query) :
    (g.text, g.freq) ∈ s.grams ∧ g.order = s.order ∧ query ≠ [] ∧ query.length ≤ s.order ∧
      query <:+: Ngram.pieces g.text := by
  unfold find at h
  split at h
  · cases h
  · rename_i hlen
    obtain ⟨e, he, rfl⟩ := List.mem_map.1 h
    obtain ⟨hmem, hrun⟩ := List.mem_filter.1 he
    obtain ⟨id, -, hid⟩ := List.mem_filterMap.1 hmem
    obtain ⟨hne, hstands⟩ := Ngram.containsRun_iff.1 hrun
    exact ⟨List.mem_of_getElem? hid, rfl, hne, Nat.not_lt.1 hlen, hstands⟩

/-! ## Halving -/

/-- **The positions that halving looks at**, where the first entry has position `first`. The entry
at the last of them is what it finds. -/
def probes (key : Text) (first : Nat) (l : List (Text × Nat)) : List Nat :=
  if _ : l.length ≤ 1 then List.range' first l.length
  else
    let half := l.length / 2
    if (l[half]?).any fun e => Text.before key e.1 then
      (first + half) :: probes key first (l.take (l.length - half))
    else (first + half) :: probes key (first + half) (l.drop half)
termination_by l.length
decreasing_by all_goals simp only [List.length_take, List.length_drop]; omega

/-- **Halving looks at no position outside.** -/
theorem bounds_of_mem_probes {key : Text} {first : Nat} {l : List (Text × Nat)} :
    ∀ i ∈ probes key first l, first ≤ i ∧ i < first + l.length := by
  fun_induction probes key first l with
  | case1 first l hl =>
    intro i hi
    exact List.mem_range'_1.1 hi
  | case2 first l hl half hbefore ih =>
    intro i hi
    rcases List.mem_cons.1 hi with rfl | hi
    · omega
    · have := ih i hi
      rw [List.length_take] at this
      omega
  | case3 first l hl half hbefore ih =>
    intro i hi
    rcases List.mem_cons.1 hi with rfl | hi
    · omega
    · have := ih i hi
      rw [List.length_drop] at this
      omega

/-- Halving goes on as long as there are entries. -/
theorem getLast?_cons_probes (i : Nat) (key : Text) (first : Nat) {l : List (Text × Nat)}
    (h : l ≠ []) : (i :: probes key first l).getLast? = (probes key first l).getLast? := by
  have hne : probes key first l ≠ [] := by
    rw [probes]
    split
    · rw [Ne, List.range'_eq_nil_iff, List.length_eq_zero_iff]
      exact h
    · dsimp only
      split
      · exact List.cons_ne_nil _ _
      · exact List.cons_ne_nil _ _
  obtain ⟨j, js, hprobes⟩ := List.exists_cons_of_ne_nil hne
  rw [hprobes, List.getLast?_cons_cons]

/-- **What halving finds** stands at the last position that it looks at. -/
theorem narrow_eq_probes {key : Text} {all l : List (Text × Nat)} :
    ∀ first, (∀ i, i < l.length → all[first + i]? = l[i]?) →
      narrow key l = (probes key first l).getLast?.bind fun i => all[i]? := by
  fun_induction narrow key l with
  | case1 l hl =>
    intro first hpart
    rw [probes, dif_pos hl]
    rcases l with _ | ⟨e, _ | ⟨e', l⟩⟩
    · rfl
    · exact (hpart 0 Nat.one_pos).symm
    · rw [List.length_cons, List.length_cons] at hl
      omega
  | case2 l hl half hbefore ih =>
    intro first hpart
    have hne : l.take (l.length - half) ≠ [] := by
      rw [Ne, ← List.length_eq_zero_iff, List.length_take]
      omega
    have hrest : ∀ i, i < (l.take (l.length - half)).length →
        all[first + i]? = (l.take (l.length - half))[i]? := by
      intro i hi
      rw [List.length_take] at hi
      rw [hpart i (by omega), List.getElem?_take_of_lt (by omega)]
    rw [probes, dif_neg hl, ih first hrest]
    dsimp only
    rw [if_pos hbefore, getLast?_cons_probes _ key first hne]
  | case3 l hl half hbefore ih =>
    intro first hpart
    have hne : l.drop half ≠ [] := by
      rw [Ne, ← List.length_eq_zero_iff, List.length_drop]
      omega
    have hrest : ∀ i, i < (l.drop half).length → all[first + half + i]? = (l.drop half)[i]? := by
      intro i hi
      rw [List.length_drop] at hi
      rw [Nat.add_assoc, hpart (half + i) (by omega), List.getElem?_drop]
    rw [probes, dif_neg hl, ih (first + half) hrest]
    dsimp only
    rw [if_neg hbefore, getLast?_cons_probes _ key (first + half) hne]

/-- **The frequency of a gram** is looked up at the last position that halving looks at. -/
theorem freq?_eq_probes (s : Segment) (gram : Text) :
    s.freq? gram = valueAt gram ((probes gram 0 s.grams).getLast?.bind fun i => s.grams[i]?) := by
  have hpart : ∀ i, i < s.grams.length → s.grams[0 + i]? = s.grams[i]? := by
    intro i _
    rw [Nat.zero_add]
  rw [← narrow_eq_probes 0 hpart]
  rfl

/-- **A frequency that is found** is that of a gram of the segment, exactly this one. -/
theorem mem_of_freq? {s : Segment} {gram : Text} {k : Nat} (h : s.freq? gram = some k) :
    (gram, k) ∈ s.grams := by
  rw [freq?_eq_probes] at h
  cases hfound : (probes gram 0 s.grams).getLast?.bind fun i => s.grams[i]? with
  | none =>
    rw [hfound] at h
    cases h
  | some e =>
    obtain ⟨i, -, hi⟩ := Option.bind_eq_some_iff.1 hfound
    rw [hfound, valueAt] at h
    split at h
    · rename_i hgram
      obtain rfl := Option.some.inj h
      obtain rfl := hgram
      exact List.mem_of_getElem? hi
    · cases h

/-! ## Files of any origin -/

/-- **A segment that is loaded**, wherever its file comes from, looks at none but its own grams, and
answers only with grams that stand in the file and contain the query, with the frequencies that
stand there. No others stand in this file. -/
theorem load_sound {σ : Type} [Store σ] {st : σ} {order : Nat} {s : Segment}
    (h : load order st = .ok s) :
    (∃ bytes terms, Store.read st (fileName order) = .ok bytes ∧
      Holds bytes order s.grams terms ∧ s.postings = posted terms ∧
      ∀ grams' terms', Holds bytes order grams' terms' → grams' = s.grams ∧ terms' = terms) ∧
    (∀ query, (∀ id ∈ s.candidates query, id < s.grams.length) ∧
      ∀ g ∈ s.find query, (g.text, g.freq) ∈ s.grams ∧ g.order = order ∧ query ≠ [] ∧
        query.length ≤ order ∧ query <:+: Ngram.pieces g.text) ∧
    ∀ gram, (∀ i ∈ probes gram 0 s.grams, i < s.grams.length) ∧
      s.freq? gram = valueAt gram ((probes gram 0 s.grams).getLast?.bind fun i => s.grams[i]?) ∧
      ∀ k, s.freq? gram = some k → (gram, k) ∈ s.grams := by
  obtain ⟨bytes, hread, hdecode⟩ := load_eq_ok_iff.1 h
  have horder : s.order = order := (decode_eq_ok_iff.1 hdecode).1
  obtain ⟨terms, hholds, hbound, hposted⟩ := holds_of_decode hdecode
  have honly : ∀ grams' terms', Holds bytes order grams' terms' →
      grams' = s.grams ∧ terms' = terms := fun _ _ h' => (h'.unique hholds).2
  refine ⟨⟨bytes, terms, hread, hholds, hposted, honly⟩, fun query => ⟨fun id hid => ?_, fun g hg => ?_⟩,
    fun gram => ⟨fun i hi => ?_, freq?_eq_probes s gram, fun k hk => mem_of_freq? hk⟩⟩
  · obtain ⟨token, -, ids, hget, hmem⟩ := exists_of_mem_candidates hid
    rw [hposted] at hget
    exact hbound _ (mem_of_get?_posted hget) id hmem
  · rw [← horder]
    exact mem_of_find hg
  · have hlt := (bounds_of_mem_probes i hi).2
    rwa [Nat.zero_add] at hlt

/-- A segment that has not been built: its grams are out of order, one of them stands in two places,
and a token is posted twice for one gram, and for another one that does not hold it. -/
def scrambled : Segment :=
  ⟨2, [("b a", 2), ("a a", 1), ("b a", 3)], [("b", [2, 1, 0, 2])]⟩

theorem fits_scrambled : scrambled.Fits := by
  refine ⟨by decide, by decide, by decide, by decide, by decide, by decide, ?_⟩
  unfold Table.Sorted
  decide

theorem load_sound_scrambled : ∃ m : Memory, load 2 m = .ok scrambled ∧
    scrambled.find ["b"] = [⟨"b a", 2, 3⟩, ⟨"b a", 2, 2⟩, ⟨"b a", 2, 3⟩] ∧
    ∀ g ∈ scrambled.find ["b"], (g.text, g.freq) ∈ scrambled.grams := by
  obtain ⟨m, hsave⟩ : ∃ m : Memory,
      Store.write Memory.empty (fileName 2) scrambled.encode = .ok m := ⟨_, rfl⟩
  have hload : load 2 m = .ok scrambled :=
    load_eq_ok_iff.2 ⟨_, Store.Lawful.read_write hsave, decode_encode fits_scrambled⟩
  obtain ⟨-, hfind, -⟩ := load_sound hload
  exact ⟨m, hload, by decide, fun g hg => ((hfind ["b"]).2 g hg).1⟩

end Segment

end Kompositum

import Kompositum.Text.Table

/-!
# Tables in ascending order

The order of texts is strict and total, so that a table in this order has one entry for every text
that has a value.

* `before_trans`, `before_total`: the order of texts.
* `Table.get?_alter`, `Table.Sorted.alter`: what changing one value does.
* `Table.Sorted.ext`: two tables with the same values are the same.
-/

namespace Kompositum.Text

/-! ## The order of texts -/

theorem before_cons (a b : Char) (s t : Text) :
    before (a :: s) (b :: t) = true ↔ a.toNat < b.toNat ∨ a = b ∧ before s t = true := by
  simp [before]

theorem before_irrefl (s : Text) : before s s = false := by
  induction s with
  | nil => rfl
  | cons a s ih => simp [before, ih]

theorem ne_of_before {s t : Text} (h : before s t = true) : s ≠ t := by
  rintro rfl
  rw [before_irrefl] at h
  exact Bool.noConfusion h

theorem before_trans {s t u : Text} (hst : before s t = true) (htu : before t u = true) :
    before s u = true := by
  induction s generalizing t u with
  | nil =>
    cases u with
    | nil => cases t <;> simp [before] at htu
    | cons c u => rfl
  | cons a s ih =>
    cases t with
    | nil => simp [before] at hst
    | cons b t =>
      cases u with
      | nil => simp [before] at htu
      | cons c u =>
        rw [before_cons] at hst htu ⊢
        rcases hst with hab | ⟨rfl, hst⟩
        · rcases htu with hbc | ⟨rfl, -⟩
          · exact .inl (Nat.lt_trans hab hbc)
          · exact .inl hab
        · rcases htu with hac | ⟨rfl, htu⟩
          · exact .inl hac
          · exact .inr ⟨rfl, ih hst htu⟩

theorem before_asymm {s t : Text} (h : before s t = true) : before t s = false := by
  cases hts : before t s with
  | false => rfl
  | true => exact absurd rfl (ne_of_before (before_trans h hts))

/-- **Of two different texts one comes before the other.** -/
theorem before_total {s t : Text} (hne : s ≠ t) (h : before s t = false) : before t s = true := by
  induction s generalizing t with
  | nil =>
    cases t with
    | nil => exact absurd rfl hne
    | cons b t => simp [before] at h
  | cons a s ih =>
    cases t with
    | nil => rfl
    | cons b t =>
      have hnot : ¬(a.toNat < b.toNat ∨ a = b ∧ before s t = true) := by
        rw [← before_cons, h]
        exact Bool.false_ne_true
      rw [before_cons]
      by_cases hab : a = b
      · subst hab
        refine .inr ⟨rfl, ih (fun hst => hne (by rw [hst])) ?_⟩
        rw [← Bool.not_eq_true]
        exact fun hst => hnot (.inr ⟨rfl, hst⟩)
      · have hval : a.toNat ≠ b.toNat := fun heq => hab (Char.toNat_inj.1 heq)
        left
        omega

/-- Texts in strictly ascending order are determined by which ones they are. -/
theorem eq_of_pairwise_before {ts us : List Text}
    (ht : ts.Pairwise fun s t => before s t = true) (hu : us.Pairwise fun s t => before s t = true)
    (h : ∀ t, t ∈ ts ↔ t ∈ us) : ts = us := by
  have hperm : ts.Perm us :=
    (List.perm_ext_iff_of_nodup (ht.imp ne_of_before) (hu.imp ne_of_before)).2 h
  refine hperm.eq_of_pairwise (fun s t _ _ hst hts => ?_) ht hu
  rw [before_asymm hst] at hts
  exact Bool.noConfusion hts

namespace Table

variable {α : Type}

/-! ## Looking up -/

theorem mem_of_get? {t : Table α} {key : Text} {a : α} (h : get? key t = some a) :
    (key, a) ∈ t := by
  induction t with
  | nil => simp [get?] at h
  | cons x t ih =>
    obtain ⟨k, b⟩ := x
    rw [get?] at h
    by_cases hk : k = key
    · rw [if_pos hk] at h
      rw [← hk, Option.some.inj h]
      exact List.mem_cons_self
    · rw [if_neg hk] at h
      exact List.mem_cons_of_mem _ (ih h)

theorem get?_eq_none_iff {t : Table α} {key : Text} : get? key t = none ↔ key ∉ t.keys := by
  induction t with
  | nil => simp [get?, keys]
  | cons x t ih =>
    obtain ⟨k, b⟩ := x
    have hcons : keys ((k, b) :: t) = k :: keys t := rfl
    rw [get?, hcons, List.mem_cons, not_or, ← ih]
    by_cases hk : k = key
    · simp [hk]
    · simp [hk, Ne.symm hk]

theorem mem_keys_iff {t : Table α} {key : Text} : key ∈ t.keys ↔ ∃ a, get? key t = some a := by
  rw [← Option.ne_none_iff_exists', Ne, get?_eq_none_iff, Decidable.not_not]

/-- What is found where all values have been replaced by their images. -/
theorem get?_map {β : Type} (f : α → β) (t : Table α) (key : Text) :
    get? key (t.map fun x => (x.1, f x.2)) = (get? key t).map f := by
  induction t with
  | nil => rfl
  | cons x t ih =>
    obtain ⟨k, a⟩ := x
    rw [List.map_cons, get?, get?, ih]
    split <;> rfl

/-! ## Ascending order -/

/-- **A table in ascending order**, as `alter` makes it. -/
def Sorted (t : Table α) : Prop := t.Pairwise fun x y => before x.1 y.1 = true

theorem sorted_nil : Sorted ([] : Table α) := List.Pairwise.nil

theorem sorted_cons {x : Text × α} {t : Table α} :
    Sorted (x :: t) ↔ (∀ y ∈ t, before x.1 y.1 = true) ∧ Sorted t :=
  List.pairwise_cons

theorem Sorted.nodup_keys {t : Table α} (h : t.Sorted) : t.keys.Nodup := by
  unfold keys List.Nodup
  rw [List.pairwise_map]
  exact h.imp ne_of_before

theorem Sorted.get?_eq_some_iff {t : Table α} (h : t.Sorted) {key : Text} {a : α} :
    get? key t = some a ↔ (key, a) ∈ t := by
  refine ⟨mem_of_get?, fun hm => ?_⟩
  induction t with
  | nil => simp at hm
  | cons x t ih =>
    obtain ⟨k, b⟩ := x
    obtain ⟨hfirst, ht⟩ := sorted_cons.1 h
    rcases List.mem_cons.1 hm with heq | hm
    · obtain ⟨rfl, rfl⟩ := Prod.mk.inj heq
      simp [get?]
    · have hne : k ≠ key := ne_of_before (hfirst _ hm)
      rw [get?, if_neg hne, ih ht hm]

theorem Sorted.get?_eq_none_of_before {t : Table α} {key : Text}
    (h : ∀ y ∈ t, before key y.1 = true) : get? key t = none := by
  rw [get?_eq_none_iff]
  intro hm
  obtain ⟨y, hy, rfl⟩ := List.mem_map.1 hm
  exact ne_of_before (h y hy) rfl

/-- What is in an altered table was in it before, or has the altered key. -/
theorem mem_alter {t : Table α} {key : Text} {f : Option α → Option α} {x : Text × α}
    (h : x ∈ t.alter key f) : x.1 = key ∨ x ∈ t := by
  induction t with
  | nil =>
    obtain ⟨a, -, rfl⟩ := by simpa [alter] using h
    exact .inl rfl
  | cons y t ih =>
    obtain ⟨k, b⟩ := y
    rw [alter] at h
    split at h
    · rename_i hk
      rcases List.mem_append.1 h with h | h
      · obtain ⟨a, -, rfl⟩ := by simpa using h
        exact .inl hk
      · exact .inr (List.mem_cons_of_mem _ h)
    · split at h
      · rcases List.mem_append.1 h with h | h
        · obtain ⟨a, -, rfl⟩ := by simpa using h
          exact .inl rfl
        · exact .inr h
      · rcases List.mem_cons.1 h with rfl | h
        · exact .inr List.mem_cons_self
        · exact (ih h).imp_right (List.mem_cons_of_mem _)

/-- An alteration adds at most one entry. -/
theorem length_alter_le (t : Table α) (key : Text) (f : Option α → Option α) :
    (t.alter key f).length ≤ t.length + 1 := by
  have hlen : ∀ (o : Option α), ((o.map fun a => (key, a)).toList).length ≤ 1 := by
    intro o
    cases o <;> simp
  induction t with
  | nil => exact hlen _
  | cons x t ih =>
    obtain ⟨k, a⟩ := x
    rw [alter]
    split
    · rename_i hk
      have := hlen (f (some a))
      rw [← hk] at this
      rw [List.length_append, List.length_cons]
      omega
    · split
      · have := hlen (f none)
        rw [List.length_append]
        omega
      · rw [List.length_cons, List.length_cons]
        omega

theorem get?_append (t u : Table α) (key : Text) :
    get? key (t ++ u) = (get? key t).or (get? key u) := by
  induction t with
  | nil => rfl
  | cons x t ih =>
    obtain ⟨k, a⟩ := x
    rw [List.cons_append, get?, get?, ih]
    split <;> rfl

/-- **An altered table is still in order.** -/
theorem Sorted.alter {t : Table α} (h : t.Sorted) (key : Text) (f : Option α → Option α) :
    (t.alter key f).Sorted := by
  have hfront : ∀ {k : Text} {o : Option α} {u : Table α}, u.Sorted →
      (∀ y ∈ u, before k y.1 = true) → Sorted ((o.map fun a => (k, a)).toList ++ u) := by
    intro k o u hu hk
    cases o with
    | none => exact hu
    | some a => exact sorted_cons.2 ⟨hk, hu⟩
  induction t with
  | nil =>
    rw [Table.alter, ← List.append_nil (Option.toList _)]
    exact hfront sorted_nil (by simp)
  | cons x t ih =>
    obtain ⟨k, b⟩ := x
    obtain ⟨hk, ht⟩ := sorted_cons.1 h
    rw [Table.alter]
    split
    · exact hfront ht hk
    · rename_i hne
      split
      · rename_i hbefore
        refine hfront h fun y hy => ?_
        rcases List.mem_cons.1 hy with rfl | hy
        · exact hbefore
        · exact before_trans hbefore (hk y hy)
      · rename_i hnot
        refine sorted_cons.2 ⟨fun y hy => ?_, ih ht⟩
        rcases mem_alter hy with heq | hy
        · exact heq ▸ before_total (Ne.symm hne) (Bool.not_eq_true _ ▸ hnot)
        · exact hk y hy

/-- **What an altered table holds.** -/
theorem Sorted.get?_alter {t : Table α} (h : t.Sorted) (key : Text) (f : Option α → Option α)
    (k : Text) : get? k (t.alter key f) = if k = key then f (get? key t) else get? k t := by
  have hfront : ∀ (o : Option α) (u : Table α), get? key u = none →
      get? k ((o.map fun a => (key, a)).toList ++ u) = if k = key then o else get? k u := by
    intro o u hu
    by_cases hk : k = key
    · rw [if_pos hk, hk]
      cases o with
      | none => exact hu
      | some a => simp [get?]
    · rw [if_neg hk]
      cases o with
      | none => rfl
      | some a => simp [get?, Ne.symm hk]
  induction t with
  | nil =>
    rw [Table.alter, ← List.append_nil (Option.toList _)]
    exact hfront (f none) [] rfl
  | cons x t ih =>
    obtain ⟨j, b⟩ := x
    obtain ⟨hj, ht⟩ := sorted_cons.1 h
    rw [Table.alter]
    by_cases hjk : j = key
    · subst hjk
      rw [if_pos rfl, hfront _ _ (get?_eq_none_of_before hj)]
      by_cases hk : k = j
      · simp [hk, get?]
      · simp [hk, get?, Ne.symm hk]
    · rw [if_neg hjk]
      by_cases hbefore : before key j = true
      · have hnone : get? key ((j, b) :: t) = none := get?_eq_none_of_before fun y hy => by
          rcases List.mem_cons.1 hy with rfl | hy
          · exact hbefore
          · exact before_trans hbefore (hj y hy)
        rw [if_pos hbefore, hfront _ _ hnone, hnone]
      · rw [if_neg hbefore, get?, ih ht, get?, get?, if_neg hjk]
        by_cases hk : k = key
        · simp [hk, hjk]
        · simp [hk]

theorem Sorted.insert {t : Table α} (h : t.Sorted) (key : Text) (a : α) :
    (t.insert key a).Sorted := h.alter key _

theorem Sorted.erase {t : Table α} (h : t.Sorted) (key : Text) : (t.erase key).Sorted :=
  h.alter key _

theorem Sorted.get?_insert {t : Table α} (h : t.Sorted) (key : Text) (a : α) (k : Text) :
    get? k (t.insert key a) = if k = key then some a else get? k t := h.get?_alter key _ k

theorem Sorted.get?_erase {t : Table α} (h : t.Sorted) (key k : Text) :
    get? k (t.erase key) = if k = key then none else get? k t := h.get?_alter key _ k

theorem Sorted.pairwise_keys {t : Table α} (h : t.Sorted) :
    t.keys.Pairwise fun s t => before s t = true := List.pairwise_map.2 h

/-- A key after all others goes to the end. -/
theorem insert_of_forall_before {t : Table α} {key : Text} {a : α}
    (h : ∀ y ∈ t, before y.1 key = true) : t.insert key a = t ++ [(key, a)] := by
  unfold insert
  induction t with
  | nil => rfl
  | cons x t ih =>
    obtain ⟨k, b⟩ := x
    have hk : before k key = true := h _ List.mem_cons_self
    rw [alter, if_neg (ne_of_before hk), if_neg (by simp [before_asymm hk]),
      ih fun y hy => h y (List.mem_cons_of_mem _ hy), List.cons_append]

/-- **A table in order is determined by its values.** -/
theorem Sorted.ext {t u : Table α} (ht : t.Sorted) (hu : u.Sorted)
    (h : ∀ key, get? key t = get? key u) : t = u := by
  induction t generalizing u with
  | nil =>
    cases u with
    | nil => rfl
    | cons y u =>
      have := h y.1
      simp [get?] at this
  | cons x t ih =>
    cases u with
    | nil =>
      have := h x.1
      simp [get?] at this
    | cons y u =>
      obtain ⟨k, a⟩ := x
      obtain ⟨j, b⟩ := y
      obtain ⟨hk, ht'⟩ := sorted_cons.1 ht
      obtain ⟨hj, hu'⟩ := sorted_cons.1 hu
      have hmem : ∀ key c, (key, c) ∈ (k, a) :: t ↔ (key, c) ∈ (j, b) :: u := by
        intro key c
        rw [← ht.get?_eq_some_iff, ← hu.get?_eq_some_iff, h]
      -- a smaller first key would be missing from the other table
      have hkj : k = j := by
        rcases List.mem_cons.1 ((hmem k a).1 List.mem_cons_self) with heq | hku
        · exact (Prod.mk.inj heq).1
        · rcases List.mem_cons.1 ((hmem j b).2 List.mem_cons_self) with heq | hjt
          · exact (Prod.mk.inj heq).1.symm
          · have := before_asymm (hk _ hjt)
            rw [hj _ hku] at this
            exact Bool.noConfusion this
      subst hkj
      have hval := h k
      rw [get?, get?, if_pos rfl, if_pos rfl] at hval
      obtain rfl := Option.some.inj hval
      refine congrArg _ (ih ht' hu' fun key => ?_)
      by_cases hkey : k = key
      · rw [← hkey, get?_eq_none_of_before hk, get?_eq_none_of_before hj]
      · have := h key
        rwa [get?, get?, if_neg hkey, if_neg hkey] at this

/-- A text that has no value cannot lose it. -/
theorem Sorted.erase_of_get?_eq_none {t : Table α} (h : t.Sorted) {key : Text}
    (hnone : get? key t = none) : t.erase key = t := by
  refine (h.erase key).ext h fun k => ?_
  rw [h.get?_erase]
  by_cases hk : k = key
  · rw [if_pos hk, hk, hnone]
  · rw [if_neg hk]

/-- A text given the value that it has. -/
theorem Sorted.insert_of_get?_eq_some {t : Table α} (h : t.Sorted) {key : Text} {a : α}
    (hget : get? key t = some a) : t.insert key a = t := by
  refine (h.insert key a).ext h fun k => ?_
  rw [h.get?_insert]
  by_cases hk : k = key
  · rw [if_pos hk, hk, hget]
  · rw [if_neg hk]

/-- **What has been inserted last counts.** -/
theorem Sorted.insert_insert {t : Table α} (h : t.Sorted) (key : Text) (a b : α) :
    (t.insert key a).insert key b = t.insert key b := by
  refine ((h.insert key a).insert key b).ext (h.insert key b) fun k => ?_
  rw [(h.insert key a).get?_insert, h.get?_insert, h.get?_insert]
  by_cases hk : k = key
  · rw [if_pos hk, if_pos hk]
  · rw [if_neg hk, if_neg hk, if_neg hk]

theorem Sorted.insert_erase {t : Table α} (h : t.Sorted) (key : Text) (a : α) :
    (t.erase key).insert key a = t.insert key a := by
  refine ((h.erase key).insert key a).ext (h.insert key a) fun k => ?_
  rw [(h.erase key).get?_insert, h.get?_erase, h.get?_insert]
  by_cases hk : k = key
  · rw [if_pos hk, if_pos hk]
  · rw [if_neg hk, if_neg hk, if_neg hk]

end Table

end Kompositum.Text

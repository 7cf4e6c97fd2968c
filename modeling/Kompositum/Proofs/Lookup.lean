/-!
# Pairs looked up by their keys

* `lookup_eq_some_iff_mem`: without repeated keys, looking up is membership.
* `lookup_filter_ne`, `lookup_map`: looking up where a key has been taken out, or where every key
  has been given its value.
-/

namespace Kompositum

variable {κ α : Type} [BEq κ] [LawfulBEq κ]

/-- In a row of pairs without repeated keys, a key finds its pair. -/
theorem lookup_eq_some_iff_mem {l : List (κ × α)} (h : (l.map Prod.fst).Nodup) {k : κ} {a : α} :
    l.lookup k = some a ↔ (k, a) ∈ l := by
  induction l with
  | nil => simp
  | cons x l ih =>
    obtain ⟨j, b⟩ := x
    rw [List.map_cons, List.nodup_cons] at h
    rw [List.lookup_cons, List.mem_cons, Prod.mk.injEq]
    by_cases hk : k = j
    · subst hk
      have hnot : (k, a) ∉ l := fun hm => h.1 (List.mem_map.2 ⟨_, hm, rfl⟩)
      simp [hnot, eq_comm]
    · rw [beq_false_of_ne hk]
      simp [hk, ih h.2]

/-- Without the pairs of a key, the other keys find what they found before. -/
theorem lookup_filter_ne [DecidableEq κ] (p q : κ) (l : List (κ × α)) :
    (l.filter fun x => x.1 != p).lookup q = if q = p then none else l.lookup q := by
  induction l with
  | nil => simp
  | cons x l ih =>
    obtain ⟨k, a⟩ := x
    by_cases hk : k = p
    · rw [List.filter_cons_of_neg (by simpa using hk), ih, List.lookup_cons]
      by_cases hq : q = p
      · rw [if_pos hq, if_pos hq]
      · have hqk : (q == k) = false := beq_false_of_ne fun heq => hq (heq.trans hk)
        rw [if_neg hq, if_neg hq, hqk]
    · rw [List.filter_cons_of_pos (by simpa using hk), List.lookup_cons, List.lookup_cons, ih]
      by_cases hq : q = k
      · simp [hq, hk]
      · rw [beq_false_of_ne hq]

/-- Keys with their values find them. -/
theorem lookup_map [DecidableEq κ] (f : κ → α) (l : List κ) (k : κ) :
    (l.map fun j => (j, f j)).lookup k = if k ∈ l then some (f k) else none := by
  induction l with
  | nil => rfl
  | cons j l ih =>
    rw [List.map_cons, List.lookup_cons, ih]
    by_cases hk : k = j
    · simp [hk]
    · simp [hk, beq_false_of_ne hk]

end Kompositum

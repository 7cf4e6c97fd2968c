/-!
# Rows with one more element

What a row of steps or lines tells is told again when one more has come. An element of the longer
row, with what is before and after it, is the new one or was there before.

* `concat_eq_append_cons_iff`: the two cases.
* `forall_mem_concat_iff`: what holds of all elements.
* `eraseDups_concat_of_mem`, `eraseDups_concat_of_notMem`: the elements without repetitions.
-/

namespace Kompositum

/-- An element of a longer row is the new one, or was there before. -/
theorem concat_eq_append_cons_iff {α : Type} {l before after : List α} {x y : α} :
    l ++ [x] = before ++ y :: after ↔
      (l = before ∧ x = y ∧ after = []) ∨
        ∃ after', after = after' ++ [x] ∧ l = before ++ y :: after' := by
  constructor
  · intro h
    rcases List.append_eq_append_iff.1 h with ⟨mid, hbefore, hx⟩ | ⟨mid, hl, hrest⟩
    · cases mid with
      | nil =>
        obtain ⟨hxy, hafter⟩ := List.cons.inj hx
        exact .inl ⟨by simp [hbefore], hxy, hafter.symm⟩
      | cons z mid => simp at hx
    · cases mid with
      | nil =>
        obtain ⟨hxy, hafter⟩ := List.cons.inj hrest
        exact .inl ⟨by simp [hl], hxy.symm, hafter⟩
      | cons z mid =>
        obtain ⟨rfl, hafter⟩ := List.cons.inj hrest
        exact .inr ⟨mid, hafter, hl⟩
  · rintro (⟨rfl, rfl, rfl⟩ | ⟨after', rfl, rfl⟩)
    · rfl
    · rw [List.append_assoc, List.cons_append]

/-- An element that has been met before does not count. -/
theorem eraseDups_concat_of_mem {α : Type} [BEq α] [LawfulBEq α] {l : List α} {x : α} (h : x ∈ l) :
    (l ++ [x]).eraseDups = l.eraseDups := by
  simp [List.eraseDups_append, List.removeAll, h]

theorem eraseDups_concat_of_notMem {α : Type} [BEq α] [LawfulBEq α] {l : List α} {x : α}
    (h : x ∉ l) : (l ++ [x]).eraseDups = l.eraseDups ++ [x] := by
  simp [List.eraseDups_append, List.removeAll, List.eraseDups_cons, h]

theorem forall_mem_concat_iff {α : Type} {p : α → Prop} {l : List α} {x : α} :
    (∀ y ∈ l ++ [x], p y) ↔ (∀ y ∈ l, p y) ∧ p x := by
  rw [List.forall_mem_append, List.forall_mem_singleton]

end Kompositum

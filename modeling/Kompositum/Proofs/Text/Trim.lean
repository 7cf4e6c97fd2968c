import Mathlib.Data.List.DropRight
import Kompositum.Proofs.Text.Pieces

/-!
# White space around texts and pieces

White space around a text means nothing once the text has been trimmed, and white space around a
row of pieces means nothing once every piece has been trimmed.

* `IsTrimmed`: a text without white space at its ends; `isTrimmed_trim`: what trimming leaves.
* `map_trim_splitOn_trim`: a text trimmed before it is cut has the same pieces.
-/

namespace Kompositum.Text

open Character (isBlank)

variable {t u : Text} {c : Char}

/-! ## Trimming -/

/-- **A text without white space at its ends.** -/
def IsTrimmed (t : Text) : Prop :=
  (∀ c ∈ t.head?, isBlank c = false) ∧ ∀ c ∈ t.getLast?, isBlank c = false

theorem isTrimmed_trim (t : Text) : IsTrimmed (trim t) := by
  have htrim : trim t = (t.dropWhile isBlank).rdropWhile isBlank := rfl
  rw [htrim]
  constructor
  · intro c hc
    obtain ⟨rest, hrest⟩ := List.head?_eq_some_iff.1 hc
    obtain ⟨u, hu⟩ := List.rdropWhile_prefix isBlank (l := t.dropWhile isBlank)
    have hfirst := List.head?_dropWhile_not isBlank t
    rw [← hu, hrest] at hfirst
    exact hfirst
  · intro c hc
    have hne := List.ne_nil_of_mem (List.mem_of_getLast? hc)
    have hlast := (List.getLast?_eq_some_getLast hne).symm.trans hc
    have hnot := List.rdropWhile_last_not isBlank (t.dropWhile isBlank) hne
    rwa [Option.some.inj hlast, Bool.not_eq_true] at hnot

/-- White space before a text is trimmed. -/
theorem trim_append_left (h : ∀ c ∈ u, isBlank c = true) (t : Text) : trim (u ++ t) = trim t := by
  rw [trim, List.dropWhile_append_of_pos h, ← trim]

/-- White space behind a text is trimmed. -/
theorem trim_append_right (h : ∀ c ∈ u, isBlank c = true) (t : Text) : trim (t ++ u) = trim t := by
  have hreverse : ∀ c ∈ u.reverse, isBlank c = true := fun c hc => h c (List.mem_reverse.1 hc)
  unfold trim trimEnd
  rw [List.dropWhile_append]
  split
  case isTrue hblank =>
    rw [List.isEmpty_iff.1 hblank, List.dropWhile_eq_nil_iff.2 h]
  case isFalse => rw [List.reverse_append, List.dropWhile_append_of_pos hreverse]

/-- A text is what trimming leaves of it, between white space. -/
theorem exists_eq_trim (t : Text) : ∃ u v, (∀ c ∈ u, isBlank c = true) ∧
    (∀ c ∈ v, isBlank c = true) ∧ t = u ++ (trim t ++ v) := by
  refine ⟨t.takeWhile isBlank, (t.dropWhile isBlank).rtakeWhile isBlank,
    fun c hc => List.mem_takeWhile_imp hc, fun c hc => List.mem_rtakeWhile_imp hc, ?_⟩
  have hend : trim t ++ (t.dropWhile isBlank).rtakeWhile isBlank = t.dropWhile isBlank :=
    List.rdropWhile_append_rtakeWhile ..
  rw [hend, List.takeWhile_append_dropWhile]

/-! ## Pieces -/

/-- What holds no separator joins the last piece. -/
theorem splitWhen_append_of_forall_not {α : Type} {p : α → Bool} {u : List α}
    (h : ∀ c ∈ u, p c = false) (t : List α) :
    ∃ ws w, splitWhen p t = ws ++ [w] ∧ splitWhen p (t ++ u) = ws ++ [w ++ u] := by
  induction t with
  | nil => exact ⟨[], [], rfl, splitWhen_of_forall_not h⟩
  | cons c t ih =>
    obtain ⟨ws, w, ht, htu⟩ := ih
    rw [List.cons_append, splitWhen, splitWhen, ht, htu]
    by_cases hc : p c = true
    · cases ws with
      | nil => exact ⟨[[]], w, by simp [hc]⟩
      | cons v ws => exact ⟨[] :: v :: ws, w, by simp [hc]⟩
    · cases ws with
      | nil => exact ⟨[], c :: w, by simp [hc]⟩
      | cons v ws => exact ⟨(c :: v) :: ws, w, by simp [hc]⟩

theorem map_trim_splitOn_append_left (hc : isBlank c = false) (h : ∀ d ∈ u, isBlank d = true)
    (t : Text) : (splitOn c (u ++ t)).map trim = (splitOn c t).map trim := by
  induction u with
  | nil => rfl
  | cons d u ih =>
    obtain ⟨hd, hu⟩ := List.forall_mem_cons.1 h
    have hne : ¬(d == c) = true := by
      rw [beq_iff_eq]
      rintro rfl
      rw [hc] at hd
      exact Bool.noConfusion hd
    obtain ⟨w, ws, hw, hcut⟩ := splitWhen_cons (· == c) d (u ++ t)
    have hfirst : trim (d :: w) = trim w := trim_append_left (u := [d]) (by simpa using hd) w
    unfold splitOn at ih ⊢
    rw [← ih hu, List.cons_append, hcut, if_neg hne, hw, List.map_cons, hfirst,
      List.map_cons]

theorem map_trim_splitOn_append_right (hc : isBlank c = false) (h : ∀ d ∈ u, isBlank d = true)
    (t : Text) : (splitOn c (t ++ u)).map trim = (splitOn c t).map trim := by
  have hpiece : ∀ d ∈ u, (d == c) = false := by
    intro d hd
    rw [beq_eq_false_iff_ne]
    rintro rfl
    have := h d hd
    rw [hc] at this
    exact Bool.noConfusion this
  obtain ⟨ws, w, ht, htu⟩ := splitWhen_append_of_forall_not hpiece t
  unfold splitOn
  rw [ht, htu, List.map_append, List.map_append, List.map_singleton,
    List.map_singleton, trim_append_right h]

/-- **A text trimmed before it is cut** has the same pieces, white space around them apart. -/
theorem map_trim_splitOn_trim (hc : isBlank c = false) (t : Text) :
    (splitOn c (trim t)).map trim = (splitOn c t).map trim := by
  obtain ⟨u, v, hu, hv, ht⟩ := exists_eq_trim t
  conv => rhs; rw [ht]
  rw [map_trim_splitOn_append_left hc hu, map_trim_splitOn_append_right hc hv]

end Kompositum.Text

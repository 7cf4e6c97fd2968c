import Kompositum.Lexicon.Dictionary
import Kompositum.Proofs.Text.Small
import Kompositum.Proofs.Text.Table

/-!
# What a dictionary holds

A dictionary keeps its words in ascending order and in one form, in which it also looks them up.
Pieces of a word in this form are in this form themselves.

* `Dictionary.IsNormal`: a text in the form in which a dictionary keeps words; `normalize` makes
  such texts and keeps them.
* `Dictionary.Kept`: the words are in order and in this form, as in every dictionary that is made
  from a list of words (`kept_ofList`).
-/

namespace Kompositum.Dictionary

variable {d : Dictionary}

/-- **A text in the form in which a dictionary keeps words.** -/
def IsNormal (d : Dictionary) (t : Text) : Prop := d.foldsCase = true → t.IsSmall

theorem isNormal_normalize (d : Dictionary) (t : Text) : d.IsNormal (d.normalize t) := by
  intro h
  rw [normalize, if_pos h]
  exact Text.isSmall_lower t

theorem IsNormal.normalize_eq {t : Text} (h : d.IsNormal t) : d.normalize t = t := by
  unfold normalize
  split
  case isTrue hfold => exact (h hfold).lower_eq
  case isFalse => rfl

theorem IsNormal.of_subset {s t : Text} (h : d.IsNormal t) (hst : s ⊆ t) : d.IsNormal s :=
  fun hfold => (h hfold).of_subset hst

/-- Lower-casing does not see the form in which a dictionary keeps words. -/
theorem lower_normalize (d : Dictionary) (t : Text) : Text.lower (d.normalize t) = Text.lower t := by
  unfold normalize
  split
  case isTrue => exact Text.lower_lower t
  case isFalse => rfl

theorem contains_iff {t : Text} : d.contains t = true ↔ d.normalize t ∈ d.words := by
  rw [contains, List.contains_iff_mem]

theorem IsNormal.contains_iff {t : Text} (h : d.IsNormal t) : d.contains t = true ↔ t ∈ d.words := by
  rw [Dictionary.contains_iff, h.normalize_eq]

/-- **The words of a dictionary** are in ascending order and in the form in which it keeps them. -/
structure Kept (d : Dictionary) : Prop where
  ascending : d.words.Pairwise fun v w => Text.before v w = true
  normal : ∀ w ∈ d.words, d.IsNormal w

theorem Kept.nodup (h : d.Kept) : d.words.Nodup := h.ascending.imp Text.ne_of_before

theorem mem_insertWord_iff {v w : Text} {ws : List Text} :
    v ∈ insertWord w ws ↔ v = w ∨ v ∈ ws := by
  induction ws with
  | nil => simp [insertWord]
  | cons u us ih =>
    rw [insertWord]
    by_cases huw : u = w
    · rw [if_pos huw]
      simp [huw]
    · rw [if_neg huw]
      split
      · simp
      · rw [List.mem_cons, ih, List.mem_cons, or_left_comm]

theorem pairwise_insertWord {ws : List Text}
    (h : ws.Pairwise fun v w => Text.before v w = true) (w : Text) :
    (insertWord w ws).Pairwise fun v w => Text.before v w = true := by
  induction ws with
  | nil => exact List.pairwise_singleton _ _
  | cons u us ih =>
    obtain ⟨hfirst, hus⟩ := List.pairwise_cons.1 h
    rw [insertWord]
    by_cases huw : u = w
    · rwa [if_pos huw]
    · rw [if_neg huw]
      split
      case isTrue hwu =>
        refine List.pairwise_cons.2 ⟨fun v hv => ?_, h⟩
        rcases List.mem_cons.1 hv with rfl | hv
        · exact hwu
        · exact Text.before_trans hwu (hfirst v hv)
      case isFalse hwu =>
        refine List.pairwise_cons.2 ⟨fun v hv => ?_, ih hus⟩
        rcases mem_insertWord_iff.1 hv with rfl | hv
        · exact Text.before_total (Ne.symm huw) (Bool.not_eq_true _ ▸ hwu)
        · exact hfirst v hv

theorem Kept.insert (h : d.Kept) (o : DictionaryOptions) (w : Text) : (d.insert o w).Kept := by
  unfold Dictionary.insert
  dsimp only
  split
  case isTrue => exact h
  case isFalse =>
    refine ⟨pairwise_insertWord h.ascending _, fun v hv => ?_⟩
    rcases mem_insertWord_iff.1 hv with rfl | hv
    · exact isNormal_normalize d _
    · exact h.normal v hv

/-- **Every dictionary made from a list of words** keeps them so. -/
theorem kept_ofList (o : DictionaryOptions) (ws : List Text) : (ofList o ws).Kept := by
  have hrun : ∀ {d : Dictionary}, d.Kept → (ws.foldl (insert o) d).Kept := by
    induction ws with
    | nil => exact id
    | cons w ws ih => exact fun hd => ih (hd.insert o w)
  exact hrun ⟨.nil, by simp [empty]⟩

/-! ## The words of a list -/

variable {o : DictionaryOptions} {v w : Text} {ws : List Text}

/-- **A word is taken in** if it is not empty and long enough, white space around it apart. -/
def Takes (o : DictionaryOptions) (w : Text) : Prop :=
  Text.trim w ≠ [] ∧ o.minLength ≤ (Text.trim w).length

theorem foldsCase_insert (o : DictionaryOptions) (d : Dictionary) (w : Text) :
    (insert o d w).foldsCase = d.foldsCase := by
  unfold insert
  dsimp only
  split <;> rfl

theorem mem_words_insert_iff :
    v ∈ (insert o d w).words ↔ (Takes o w ∧ d.normalize (Text.trim w) = v) ∨ v ∈ d.words := by
  unfold insert Takes
  dsimp only
  split
  case isTrue hshort =>
    rw [Bool.or_eq_true, List.isEmpty_iff, decide_eq_true_eq] at hshort
    rw [or_iff_right]
    rintro ⟨⟨hne, hlong⟩, -⟩
    rcases hshort with hnil | hlt
    · exact hne hnil
    · omega
  case isFalse hlong =>
    rw [Bool.or_eq_true, List.isEmpty_iff, decide_eq_true_eq, not_or, Nat.not_lt] at hlong
    rw [mem_insertWord_iff, and_iff_right hlong, eq_comm]

theorem foldsCase_ofList (o : DictionaryOptions) (ws : List Text) :
    (ofList o ws).foldsCase = o.foldsCase := by
  have hrun : ∀ d : Dictionary, (ws.foldl (insert o) d).foldsCase = d.foldsCase := by
    induction ws with
    | nil => exact fun _ => rfl
    | cons w ws ih => exact fun d => (ih (insert o d w)).trans (foldsCase_insert o d w)
  exact hrun (empty o.foldsCase)

theorem normalize_congr {e : Dictionary} (h : d.foldsCase = e.foldsCase) (t : Text) :
    d.normalize t = e.normalize t := by
  unfold normalize
  rw [h]

/-- **The words of a list** in the form in which the dictionary keeps them, those that are too short
left out. -/
theorem mem_words_ofList_iff :
    v ∈ (ofList o ws).words ↔
      ∃ w ∈ ws, Takes o w ∧ (empty o.foldsCase).normalize (Text.trim w) = v := by
  have hrun : ∀ d : Dictionary, d.foldsCase = o.foldsCase →
      (v ∈ (ws.foldl (insert o) d).words ↔
        (∃ w ∈ ws, Takes o w ∧ (empty o.foldsCase).normalize (Text.trim w) = v) ∨ v ∈ d.words) := by
    induction ws with
    | nil => simp
    | cons w ws ih =>
      intro d hd
      have hfolds : (insert o d w).foldsCase = o.foldsCase := by rw [foldsCase_insert, hd]
      have hnormal : d.normalize (Text.trim w) = (empty o.foldsCase).normalize (Text.trim w) :=
        normalize_congr hd _
      rw [List.foldl_cons, ih _ hfolds, mem_words_insert_iff, hnormal]
      simp only [List.mem_cons, or_and_right, exists_or, exists_eq_left]
      exact or_left_comm.trans or_assoc.symm
  have hnone : v ∉ (empty o.foldsCase).words := List.not_mem_nil
  unfold ofList
  rw [hrun _ rfl, or_iff_left hnone]

end Kompositum.Dictionary

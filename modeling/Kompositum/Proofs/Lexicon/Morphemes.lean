import Mathlib.Data.List.Induction
import Kompositum.Lexicon.Morphemes
import Kompositum.Proofs.Concat
import Kompositum.Proofs.Text.Small
import Kompositum.Proofs.Text.Table

/-!
# What a set of linking morphemes holds

Morphemes are put in small letters when they are taken in, and again when they are looked up. So a
set knows a morpheme in every case, but its members are in small letters: what it knows is a member
only if it is in small letters itself.

* `mem_ofList_iff`: the members of a set that is made from a list.
* `contains_iff`: what a set knows, in whatever case.
* `Gathered`: a set after some texts have been put into it; one more keeps it (`Gathered.insert`).
* `ofList_inStep`: the list and the table hold the same morphemes, whatever is put in.
-/

namespace Kompositum.Morphemes

variable {ms : Morphemes} {m t : Text} {ts : List Text}

theorem mem_insert_iff :
    m ∈ (ms.insert t).toList ↔ m ∈ ms.toList ∨ m ≠ [] ∧ Text.lower t = m := by
  unfold insert
  split
  case isTrue hnew =>
    rw [List.mem_append, List.mem_singleton, eq_comm (a := m), and_iff_right_of_imp]
    rintro rfl
    exact (isNew_iff.1 hnew).1
  case isFalse hknown =>
    rw [isNew_iff, not_and_not_right] at hknown
    refine (or_iff_left_of_imp ?_).symm
    rintro ⟨hne, rfl⟩
    exact hknown hne

/-- **The members of a set** are the small letters of what it was made from, but for the empty
text. -/
theorem mem_ofList_iff : m ∈ (ofList ts).toList ↔ m ≠ [] ∧ ∃ t ∈ ts, Text.lower t = m := by
  have hrun : ∀ ms : Morphemes, m ∈ (ts.foldl insert ms).toList ↔
      m ∈ ms.toList ∨ m ≠ [] ∧ ∃ t ∈ ts, Text.lower t = m := by
    induction ts with
    | nil => simp
    | cons t ts ih =>
      intro ms
      rw [List.foldl_cons, ih, mem_insert_iff]
      simp only [List.mem_cons, exists_eq_or_imp, and_or_left, or_assoc]
  have hnone : m ∉ empty.toList := List.not_mem_nil
  unfold ofList
  rw [hrun, or_iff_right hnone]

/-- Members are in small letters. -/
theorem lower_of_mem_ofList (h : m ∈ (ofList ts).toList) : Text.lower m = m := by
  obtain ⟨-, t, -, rfl⟩ := mem_ofList_iff.1 h
  exact Text.lower_lower t

/-- **A set knows a morpheme** in every case if its small letters are a member. -/
theorem contains_iff : ms.contains m = true ↔ Text.lower m ∈ ms.toList := by
  unfold contains
  rw [Bool.and_eq_true, Bool.not_eq_true', List.isEmpty_eq_false_iff, ms.mem_members,
    and_iff_right_of_imp]
  rintro h rfl
  exact ms.ne_nil _ h rfl

/-! ## One more morpheme -/

theorem insert_of_not_isNew (h : ¬ms.isNew t = true) : ms.insert t = ms := dif_neg h

theorem toList_insert (h : ms.isNew t = true) :
    (ms.insert t).toList = ms.toList ++ [Text.lower t] := by
  rw [insert, dif_pos h]

theorem members_insert (h : ms.isNew t = true) :
    (ms.insert t).members = ms.members.insert (Text.lower t) () := by
  rw [insert, dif_pos h]

/-- **The list grows** with the morphemes that are new, and with no others. -/
theorem isNew_iff_size_lt : ms.isNew t = true ↔ ms.size < (ms.insert t).size := by
  unfold size
  by_cases h : ms.isNew t = true
  · rw [toList_insert h]
    simp [h]
  · rw [insert_of_not_isNew h]
    simp [h]

/-! ## All morphemes -/

/-- **A set after some texts have been put into it**: the list has their small letters where they
occur first, the empty text apart, and the table is in ascending order. -/
structure Gathered (ms : Morphemes) (ts : List Text) : Prop where
  toList_eq : ms.toList = ((ts.filter fun t => !t.isEmpty).map Text.lower).eraseDups
  sorted : ms.members.Sorted

theorem Gathered.insert (h : ms.Gathered ts) (t : Text) : (ms.insert t).Gathered (ts ++ [t]) := by
  by_cases ht : t = []
  · have hnot : ¬ms.isNew t = true := fun hnew => (isNew_iff.1 hnew).1 (by rw [ht]; rfl)
    rw [insert_of_not_isNew hnot]
    exact ⟨by rw [h.toList_eq, ht]; simp, h.sorted⟩
  · have hrow : ((ts ++ [t]).filter fun t => !t.isEmpty).map Text.lower =
        (ts.filter fun t => !t.isEmpty).map Text.lower ++ [Text.lower t] := by
      simp [ht]
    have hmem : Text.lower t ∈ ms.toList ↔
        Text.lower t ∈ (ts.filter fun t => !t.isEmpty).map Text.lower := by
      rw [h.toList_eq, List.mem_eraseDups]
    by_cases hnew : ms.isNew t = true
    · have hnot := (isNew_iff.1 hnew).2
      refine ⟨?_, ?_⟩
      · rw [toList_insert hnew, hrow, eraseDups_concat_of_notMem (mt hmem.2 hnot), h.toList_eq]
      · rw [members_insert hnew]
        exact h.sorted.insert _ _
    · have hknown := not_and_not_right.1 (mt isNew_iff.2 hnew) (Text.lower_ne_nil ht)
      rw [insert_of_not_isNew hnew]
      refine ⟨?_, h.sorted⟩
      rw [hrow, eraseDups_concat_of_mem (hmem.1 hknown), h.toList_eq]

theorem gathered_ofList (ts : List Text) : (ofList ts).Gathered ts := by
  induction ts using List.reverseRecOn with
  | nil => exact ⟨rfl, Text.Table.sorted_nil⟩
  | append_singleton ts t ih =>
    have hlast : ofList (ts ++ [t]) = (ofList ts).insert t := by simp [ofList]
    rw [hlast]
    exact ih.insert t

/-- The table has what the list has, and has it once. -/
theorem Gathered.perm_members (h : ms.Gathered ts) : ms.members.keys.Perm ms.toList := by
  rw [List.perm_ext_iff_of_nodup h.sorted.nodup_keys ms.nodup]
  intro m
  rw [← ms.mem_members, Text.Table.mem_keys_iff, Text.Table.contains, Option.isSome_iff_exists]

theorem length_le_longest (h : m ∈ ms.toList) : m.length ≤ ms.longest := by
  rw [longest, List.foldl_max, Nat.zero_max]
  exact List.le_max?_getD_of_mem (List.mem_map_of_mem h)

theorem exists_length_eq_longest (h : ms.toList ≠ []) : ∃ m ∈ ms.toList, m.length = ms.longest := by
  obtain ⟨n, hn⟩ := Option.ne_none_iff_exists'.1
    (mt List.max?_eq_none_iff.1 (mt List.map_eq_nil_iff.1 h : ms.toList.map List.length ≠ []))
  obtain ⟨m, hm, hlength⟩ := List.mem_map.1 (List.max?_eq_some_iff.1 hn).1
  refine ⟨m, hm, ?_⟩
  rw [longest, List.foldl_max, Nat.zero_max, hn, hlength, Option.getD_some]

/-- **The list and the table stay in step**, whatever is put in: the list has the small letters of
all texts but the empty one, each where it occurs first; the table has the same morphemes; a text is
new exactly if the list grows by it; a text is known exactly if its small letters are in the list,
which the empty text never is; and the longest morpheme has the length that is told. -/
theorem ofList_inStep (ts : List Text) :
    (ofList ts).toList = ((ts.filter fun t => !t.isEmpty).map Text.lower).eraseDups ∧
      (ofList ts).toList.Nodup ∧
      (ofList ts).members.keys.Perm (ofList ts).toList ∧
      (∀ t, (ofList ts).isNew t = true ↔ (ofList ts).size < ((ofList ts).insert t).size) ∧
      (∀ m, (ofList ts).contains m = true ↔ Text.lower m ∈ (ofList ts).toList) ∧
      [] ∉ (ofList ts).toList ∧ (ofList ts).contains [] = false ∧
      (∀ m ∈ (ofList ts).toList, m.length ≤ (ofList ts).longest) ∧
      ((ofList ts).toList ≠ [] → ∃ m ∈ (ofList ts).toList, m.length = (ofList ts).longest) := by
  have hgathered := gathered_ofList ts
  have hnil : [] ∉ (ofList ts).toList := fun h => (ofList ts).ne_nil _ h rfl
  exact ⟨hgathered.toList_eq, (ofList ts).nodup, hgathered.perm_members, fun _ => isNew_iff_size_lt,
    fun _ => contains_iff, hnil, rfl, fun _ => length_le_longest, exists_length_eq_longest⟩

/-- Texts with repetitions in another case, and with the empty text. -/
def caseVariants : List Text := ["s", "", "EN", "en", "S", "ens"]

/-- What they repeat leaves no trace. -/
theorem ofList_inStep_caseVariants :
    (ofList caseVariants).toList = (["s", "en", "ens"] : List Text) ∧
      ("ens" : Text).length ≤ (ofList caseVariants).longest ∧
      ∃ m ∈ (ofList caseVariants).toList, m.length = (ofList caseVariants).longest := by
  obtain ⟨hlist, -, -, -, -, -, -, hle, hexists⟩ := ofList_inStep caseVariants
  have htexts : (ofList caseVariants).toList = (["s", "en", "ens"] : List Text) := by
    rw [hlist]
    decide +kernel
  exact ⟨htexts, hle _ (by rw [htexts]; simp), hexists (by rw [htexts]; simp)⟩

end Kompositum.Morphemes

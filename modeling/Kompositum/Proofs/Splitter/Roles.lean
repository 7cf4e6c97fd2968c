import Mathlib.Data.List.Induction
import Kompositum.Proofs.Lexicon.Morphemes
import Kompositum.Proofs.Splitter.Parts

/-!
# Which parts of an analysis are linking morphemes

What becomes of a part depends on what became of the part before it: a morpheme can only follow a
word, so that of two morphemes in a row the second is a word again.

* `Candidate.labelled`: the words and morphemes of a candidate in a row, each with its role.
* `Analyzed.labelled_attach`: one more part goes to the end of the row.
* `Analyzed.candidate_partByPart`: the row has the parts, and which of them are morphemes.
-/

namespace Kompositum

/-- What a part becomes. -/
inductive Role where
  | word | morpheme
deriving DecidableEq, Repr

/-- The word of a fragment, and its morpheme if it has one. -/
def Fragment.labelled (f : Fragment) : List (Role × Text) :=
  (.word, f.word) :: f.morpheme.toList.map fun m => (.morpheme, m)

/-- **The words and morphemes of a candidate** in order. -/
def Candidate.labelled (c : Candidate) : List (Role × Text) := c.fragments.flatMap Fragment.labelled

theorem Fragment.map_snd_labelled (f : Fragment) : f.labelled.map Prod.snd = f.pieces := by
  unfold labelled pieces
  cases f.morpheme <;> rfl

theorem map_snd_flatMap_labelled (fs : List Fragment) :
    (fs.flatMap Fragment.labelled).map Prod.snd = fs.flatMap Fragment.pieces := by
  rw [List.map_flatMap]
  exact congrArg (List.flatMap · fs) (funext Fragment.map_snd_labelled)

theorem getLast?_flatMap_labelled (fs : List Fragment) (f : Fragment) :
    ((fs ++ [f]).flatMap Fragment.labelled).getLast? = f.labelled.getLast? := by
  rw [List.flatMap_append, List.flatMap_singleton, List.getLast?_append, Option.or_of_isSome]
  simp [Fragment.labelled]

namespace Analyzed

variable {s : Analyzed} {row : List (Role × Text)} {part : Text}

/-- **What a part becomes** behind the words and morphemes before it. -/
def roleBehind (s : Analyzed) (row : List (Role × Text)) (part : Text) : Role :=
  match row.getLast? with
  | some (.word, _) => if s.morphemes.contains part then .morpheme else .word
  | _ => .word

theorem roleBehind_eq_morpheme_iff :
    s.roleBehind row part = .morpheme ↔
      s.morphemes.contains part = true ∧ ∃ w, row.getLast? = some (.word, w) := by
  unfold roleBehind
  split
  case h_1 w hlast => simp [hlast]
  case h_2 hother =>
    refine iff_of_false (nofun) ?_
    rintro ⟨-, w, hlast⟩
    exact hother w hlast

/-- **One more part** goes to the end of the row, and nothing in the row changes. -/
theorem labelled_attach (s : Analyzed) (done : List Fragment) (part : Text) :
    (s.attach done part).flatMap Fragment.labelled =
      done.flatMap Fragment.labelled ++
        [(s.roleBehind (done.flatMap Fragment.labelled) part, part)] := by
  rcases List.eq_nil_or_concat done with rfl | ⟨done, ⟨w, morpheme⟩, rfl⟩
  · rfl
  · rw [List.concat_eq_append, attach_concat, roleBehind, getLast?_flatMap_labelled]
    cases morpheme with
    | some m => simp [Fragment.labelled, Fragment.plain]
    | none =>
      by_cases hmorpheme : s.morphemes.contains part = true
      · -- the empty part is no morpheme, so that the fragment has one now
        have hne : part ≠ [] := by
          rintro rfl
          cases hmorpheme
        simp [Fragment.labelled, Fragment.linked, hmorpheme, hne]
      · simp [Fragment.labelled, Fragment.plain, hmorpheme]

/-! ## All parts -/

/-- The words and morphemes of parts that are in small letters. -/
def labels (s : Analyzed) (ts : List Text) : List (Role × Text) :=
  (ts.foldl s.attach []).flatMap Fragment.labelled

theorem labels_concat (s : Analyzed) (ts : List Text) (t : Text) :
    s.labels (ts ++ [t]) = s.labels ts ++ [(s.roleBehind (s.labels ts) t, t)] := by
  unfold labels
  rw [List.foldl_append, List.foldl_cons, List.foldl_nil, labelled_attach]

theorem map_snd_labels (s : Analyzed) (ts : List Text) : (s.labels ts).map Prod.snd = ts := by
  rw [labels, map_snd_flatMap_labelled, pieces_foldl_attach, List.flatMap_nil, List.nil_append]

theorem length_labels (s : Analyzed) (ts : List Text) : (s.labels ts).length = ts.length := by
  rw [← List.length_map Prod.snd, map_snd_labels]

/-- The row before the last part does not change. -/
theorem labels_concat_getElem?_of_lt {ts : List Text} {j : Nat} (h : j < ts.length) (t : Text) :
    (s.labels (ts ++ [t]))[j]? = (s.labels ts)[j]? := by
  rw [labels_concat, List.getElem?_append_left (by rwa [length_labels])]

/-- The last part takes its role from the row before it. -/
theorem labels_concat_getElem?_length (s : Analyzed) (ts : List Text) (t : Text) :
    (s.labels (ts ++ [t]))[ts.length]? = some (s.roleBehind (s.labels ts) t, t) := by
  rw [labels_concat, ← s.length_labels ts, List.getElem?_concat_length]

/-- A word stands before the last part if the row before it ends with a word. -/
theorem exists_word_before_last_iff (s : Analyzed) (ts : List Text) (t : Text) :
    (∃ j w, ts.length = j + 1 ∧ (s.labels (ts ++ [t]))[j]? = some (.word, w)) ↔
      ∃ w, (s.labels ts).getLast? = some (.word, w) := by
  rw [List.getLast?_eq_getElem?, length_labels]
  constructor
  · rintro ⟨j, w, hj, hw⟩
    rw [labels_concat_getElem?_of_lt (by omega)] at hw
    exact ⟨w, by rwa [hj, Nat.add_sub_cancel]⟩
  · rintro ⟨w, hw⟩
    have hpos := (List.getElem?_eq_some_iff.1 hw).1
    rw [length_labels] at hpos
    exact ⟨ts.length - 1, w, by omega, by rwa [labels_concat_getElem?_of_lt (by omega)]⟩

/-- A part is a morpheme exactly if it is known as one and stands behind a word. -/
theorem labels_getElem?_iff (s : Analyzed) (ts : List Text) (i : Nat) (m : Text) :
    (s.labels ts)[i]? = some (.morpheme, m) ↔
      ts[i]? = some m ∧ s.morphemes.contains m = true ∧
        ∃ j w, i = j + 1 ∧ (s.labels ts)[j]? = some (.word, w) := by
  induction ts using List.reverseRecOn with
  | nil => simp [labels]
  | append_singleton ts t ih =>
    rcases Nat.lt_trichotomy i ts.length with hi | rfl | hi
    · rw [labels_concat_getElem?_of_lt hi, List.getElem?_append_left hi, ih]
      refine and_congr_right' (and_congr_right' (exists_congr fun j => exists_congr fun w => ?_))
      exact and_congr_right fun hj => by rw [labels_concat_getElem?_of_lt (by omega)]
    · rw [labels_concat_getElem?_length, exists_word_before_last_iff, List.getElem?_concat_length,
        Option.some_inj, Option.some_inj, Prod.mk.injEq, roleBehind_eq_morpheme_iff, and_comm]
      exact and_congr_right fun heq => by rw [heq]
    · have hparts : (ts ++ [t]).length ≤ i := by
        rw [List.length_append, List.length_singleton]
        omega
      have hrow : (s.labels (ts ++ [t]))[i]? = none := by
        rwa [List.getElem?_eq_none_iff, length_labels]
      simp [hrow, List.getElem?_eq_none_iff.2 hparts]

/-! ## The candidate -/

theorem labelled_candidate (s : Analyzed) {parts : List Text} (h : parts ≠ []) :
    (s.candidate parts).labelled = s.labels (parts.map Text.lower) := by
  have hne : (parts.map Text.lower).foldl s.attach [] ≠ [] := by
    intro hnil
    have hlength := s.length_labels (parts.map Text.lower)
    rw [labels, hnil, List.flatMap_nil, List.length_map] at hlength
    exact h (List.length_eq_zero_iff.1 hlength.symm)
  rw [candidate, Candidate.ofFragments_of_ne_nil hne]
  rfl

/-- **Part by part**, nothing is lost and nothing is merged: the words and morphemes of a candidate
are the small letters of the parts in order, or the empty word if there are no parts. A part is a
morpheme exactly if it is known as one and the part before it is a word. So the candidate covers
the small letters of the parts. -/
theorem candidate_partByPart (s : Analyzed) (parts : List Text) :
    ((s.candidate parts).labelled.map Prod.snd =
        if parts = [] then [[]] else parts.map Text.lower) ∧
      (∀ i m, (s.candidate parts).labelled[i]? = some (.morpheme, m) ↔
        (∃ p, parts[i]? = some p ∧ Text.lower p = m ∧ s.morphemes.contains p = true) ∧
          ∃ j w, i = j + 1 ∧ (s.candidate parts).labelled[j]? = some (.word, w)) ∧
      (s.candidate parts).surface = (parts.map Text.lower).flatten := by
  refine ⟨?_, fun i m => ?_, surface_candidate s parts⟩
  · by_cases h : parts = []
    · rw [if_pos h, h]
      rfl
    · rw [if_neg h, labelled_candidate s h, map_snd_labels]
  · by_cases h : parts = []
    · have hempty : (s.candidate parts).labelled = [(.word, [])] := by
        rw [h]
        rfl
      rw [hempty, h]
      cases i <;> simp
    · rw [labelled_candidate s h, labels_getElem?_iff, ← and_assoc]
      refine and_congr_left' ?_
      rw [List.getElem?_map, Option.map_eq_some_iff]
      constructor
      · rintro ⟨⟨p, hp, rfl⟩, hknown⟩
        rw [Morphemes.contains_iff, Text.lower_lower, ← Morphemes.contains_iff] at hknown
        exact ⟨p, hp, rfl, hknown⟩
      · rintro ⟨p, hp, rfl, hknown⟩
        rw [Morphemes.contains_iff, Text.lower_lower, ← Morphemes.contains_iff]
        exact ⟨⟨p, hp, rfl⟩, hknown⟩

-- of two morphemes in a row the second is a word, and so a third one is a morpheme again
example : (candidate ⟨.german, fun _ => none⟩ ["Aktion", "s", "en", "s", "Plan"]).labelled.map
    Prod.fst = ([.word, .morpheme, .word, .morpheme, .word] : List Role) := by
  decide +kernel

end Analyzed

end Kompositum

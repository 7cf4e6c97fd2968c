import Mathlib.Data.Finset.Card
import Mathlib.Data.List.Induction
import Kompositum.Pipeline.Resource
import Kompositum.Proofs.Text.Table
import Kompositum.Proofs.Text.Trim

/-!
# The analyses in a file

A line is read on its own: what it says of its word does not depend on how it ends, on the white
space around its word and its parts, or on the lines before it. So the analyses of a word are those
of its lines in file order, and a malformed line is as good as none.

* `Analyses.isWellFormed`, `wordOf`, `partsOf`: the lines that have an analysis, and what they say.
* `Analyses.Told`: the analyses after some entries; one more keeps it (`Told.insert`).
* `Analyses.load_wellFormed`: the analyses of a file are those of its well-formed lines.
-/

namespace Kompositum.Analyses

open Text (IsTrimmed)

/-! ## One line -/

/-- The word of a line stands before the first tab. -/
def wordOf (line : Text) : Text := Text.trim (line.takeWhile (· != '\t'))

/-- **The parts of a line** stand between the plus signs behind the first tab. -/
def partsOf (line : Text) : List Text :=
  (Text.splitOn '+' (line.dropWhile (· != '\t')).tail).map Text.trim

/-- **A line has an analysis** if it is neither blank nor a comment, has a tab, and has neither an
empty word nor an empty part. -/
def isWellFormed (line : Text) : Bool :=
  !Text.isBlankText line && line.head? != some '#' && line.contains '\t' &&
    !(wordOf line).isEmpty && !(partsOf line).any (·.isEmpty)

/-- What a line says, if it is well-formed. -/
def said? (line : Text) : Option (Text × List Text) :=
  if isWellFormed line then some (wordOf line, partsOf line) else none

variable {line s r : Text}

theorem takeWhile_append_tab (hs : '\t' ∉ s) (r : Text) :
    (s ++ '\t' :: r).takeWhile (· != '\t') = s := by
  have hne : ∀ c ∈ s, (c != '\t') = true := fun c hc => bne_iff_ne.2 fun h => hs (h ▸ hc)
  rw [List.takeWhile_append_of_pos hne, List.takeWhile_cons_of_neg (by simp), List.append_nil]

theorem dropWhile_append_tab (hs : '\t' ∉ s) (r : Text) :
    (s ++ '\t' :: r).dropWhile (· != '\t') = '\t' :: r := by
  have hne : ∀ c ∈ s, (c != '\t') = true := fun c hc => bne_iff_ne.2 fun h => hs (h ▸ hc)
  rw [List.dropWhile_append_of_pos hne, List.dropWhile_cons_of_neg (by simp)]

theorem wordOf_append_tab (hs : '\t' ∉ s) (r : Text) : wordOf (s ++ '\t' :: r) = Text.trim s := by
  rw [wordOf, takeWhile_append_tab hs]

theorem partsOf_append_tab (hs : '\t' ∉ s) (r : Text) :
    partsOf (s ++ '\t' :: r) = (Text.splitOn '+' r).map Text.trim := by
  rw [partsOf, dropWhile_append_tab hs, List.tail_cons]

/-- What stands behind a tab is no part of the word. -/
theorem wordOf_append (htab : '\t' ∈ line) (u : Text) : wordOf (line ++ u) = wordOf line := by
  obtain ⟨s, r, rfl, hs⟩ := List.eq_append_cons_of_mem htab
  rw [List.append_assoc, List.cons_append, wordOf_append_tab hs, wordOf_append_tab hs]

/-- White space at the end of a line is no part of its parts. -/
theorem partsOf_append {u : Text} (htab : '\t' ∈ line)
    (hblanks : ∀ c ∈ u, Character.isBlank c = true) : partsOf (line ++ u) = partsOf line := by
  obtain ⟨s, r, rfl, hs⟩ := List.eq_append_cons_of_mem htab
  rw [List.append_assoc, List.cons_append, partsOf_append_tab hs, partsOf_append_tab hs,
    Text.map_trim_splitOn_append_right (by decide) hblanks]

/-- A line without a tab has no entry. -/
theorem entry?_of_notMem (h : '\t' ∉ line) : entry? line = none := by
  rw [ entry?, Text.cutAt?_eq_none_iff.2 h]
  rfl

/-- **The entry of a line with a tab.** That what follows the tab is trimmed before it is cut makes
no difference to the parts. -/
theorem entry?_of_mem (htab : '\t' ∈ line) :
    entry? line = if (wordOf line).isEmpty || (partsOf line).any (·.isEmpty) then none
      else some (wordOf line, partsOf line) := by
  obtain ⟨s, r, rfl, hs⟩ := List.eq_append_cons_of_mem htab
  have hcut : Text.cutAt? '\t' (s ++ '\t' :: r) = some (s, r) :=
    Text.cutAt?_eq_some_iff.2 ⟨rfl, hs⟩
  rw [wordOf_append_tab hs, partsOf_append_tab hs, entry?, hcut, Option.bind_eq_bind,
    Option.bind_some]
  dsimp only
  rw [Text.map_trim_splitOn_trim (by decide)]

/-- A line is what is left without the carriage returns at its end, and these. -/
theorem exists_eq_dropReturns (line : Text) :
    ∃ u, (∀ c ∈ u, c = '\r') ∧ line = Text.dropReturns line ++ u :=
  ⟨line.rtakeWhile (· == '\r'),
    fun _ hc => eq_of_beq (List.mem_rtakeWhile_imp (p := (· == '\r')) hc),
    (List.rdropWhile_append_rtakeWhile ..).symm⟩

/-- **How a line ends** does not matter: the carriage returns at its end belong to neither its word
nor its parts. -/
theorem said?_eq (line : Text) :
    said? line =
      if isSilent (Text.dropReturns line) then none else entry? (Text.dropReturns line) := by
  obtain ⟨u, hreturns, hline⟩ := exists_eq_dropReturns line
  have hblanks : ∀ c ∈ u, Character.isBlank c = true := fun c hc => by
    rw [hreturns c hc]
    decide
  have hsilent := Text.isBlankText_dropReturns line
  generalize Text.dropReturns line = kept at hline hsilent ⊢
  by_cases htab : '\t' ∈ kept
  · have hhead : line.head? = kept.head? := by
      rw [hline, List.head?_append_of_ne_nil _ (List.ne_nil_of_mem htab)]
    have hcontains : line.contains '\t' = true := by simp [hline, htab]
    have hword : wordOf line = wordOf kept := by rw [hline, wordOf_append htab]
    have hparts : partsOf line = partsOf kept := by rw [hline, partsOf_append htab hblanks]
    rw [said?, isWellFormed, isSilent, entry?_of_mem htab, hword, hparts, hhead, hcontains,
      ← hsilent, bne]
    cases Text.isBlankText kept <;> cases kept.head? == some '#' <;>
      cases (wordOf kept).isEmpty <;> cases (partsOf kept).any (·.isEmpty) <;> rfl
  · have hnotab : '\t' ∉ line := by
      rw [hline, List.mem_append, not_or]
      exact ⟨htab, fun hmem => absurd (hreturns _ hmem) (by decide)⟩
    rw [entry?_of_notMem htab, ite_self, said?, isWellFormed]
    simp [hnotab]

/-! ## One more entry -/

/-- **The analyses after some entries**: those of a word come from the entries that are about it in
any case, and the words are those of the entries. -/
structure Told (a : Analyses) (es : List (Text × List Text)) : Prop where
  sorted : a.table.Sorted
  ofWord_eq : ∀ w, a.ofWord w =
    (es.filter fun e => Text.lower e.1 == Text.lower w).map Prod.snd
  mem_keys_iff : ∀ k, k ∈ a.table.keys ↔ k ∈ es.map fun e => Text.lower e.1

variable {a : Analyses} {es : List (Text × List Text)}

theorem told_empty : empty.Told [] :=
  ⟨Text.Table.sorted_nil, fun _ => rfl, fun _ => Iff.rfl⟩

theorem Told.insert (h : a.Told es) (w : Text) (ps : List Text) :
    (a.insert w ps).Told (es ++ [(w, ps)]) := by
  have hget : ∀ k, (a.insert w ps).table.get? k =
      if k = Text.lower w then some ((a.table.get? (Text.lower w)).getD [] ++ [ps])
      else a.table.get? k := fun k => h.sorted.get?_alter _ _ k
  refine ⟨h.sorted.alter _ _, fun v => ?_, fun k => ?_⟩
  · rw [List.filter_append, List.map_append, ← h.ofWord_eq, ofWord, ofWord, hget]
    by_cases hv : Text.lower v = Text.lower w
    · simp [hv]
    · simp [hv, Ne.symm hv]
  · rw [List.map_append, List.mem_append, ← h.mem_keys_iff, Text.Table.mem_keys_iff,
      Text.Table.mem_keys_iff, hget]
    by_cases hk : k = Text.lower w
    · simp [hk]
    · simp [hk]

/-- There are as many words as the entries name, whatever their case. -/
theorem Told.size_eq (h : a.Told es) :
    a.size = (es.map fun e => Text.lower e.1).toFinset.card := by
  have hkeys : a.table.keys.toFinset = (es.map fun e => Text.lower e.1).toFinset := by
    ext k
    rw [List.mem_toFinset, List.mem_toFinset, h.mem_keys_iff]
  rw [← hkeys, List.toFinset_card_of_nodup h.sorted.nodup_keys, Text.Table.keys, List.length_map]
  rfl

/-! ## All lines -/

theorem ofLines_eq (t : Text) :
    ofLines t = ((Text.lines t).filterMap said?).foldl (fun a e => a.insert e.1 e.2) empty := by
  have hentries : (((Text.lines t).map Text.dropReturns).filter (!isSilent ·)).filterMap entry? =
      (Text.lines t).filterMap said? := by
    rw [List.filterMap_filter, List.filterMap_map]
    refine List.filterMap_congr fun line _ => ?_
    rw [said?_eq, Function.comp_apply]
    cases isSilent (Text.dropReturns line) <;> rfl
  rw [ofLines, hentries]

theorem told_ofLines (t : Text) : (ofLines t).Told ((Text.lines t).filterMap said?) := by
  rw [ofLines_eq]
  induction (Text.lines t).filterMap said? using List.reverseRecOn with
  | nil => exact told_empty
  | append_singleton es e ih =>
    rw [List.foldl_append]
    exact ih.insert e.1 e.2

theorem filterMap_said? (ls : List Text) :
    ls.filterMap said? = (ls.filter isWellFormed).map fun line => (wordOf line, partsOf line) := by
  induction ls with
  | nil => rfl
  | cons line ls ih =>
    cases hline : isWellFormed line with
    | true =>
      rw [List.filter_cons_of_pos hline, List.map_cons, ← ih, List.filterMap_cons_some]
      rw [said?, if_pos hline]
    | false =>
      have hnot : ¬isWellFormed line = true := by simp [hline]
      rw [List.filter_cons_of_neg hnot, ← ih, List.filterMap_cons_none]
      rw [said?, if_neg hnot]

theorem isTrimmed_of_mem_partsOf (h : isWellFormed line = true) {p : Text} (hp : p ∈ partsOf line) :
    p ≠ [] ∧ IsTrimmed p := by
  simp only [isWellFormed, Bool.and_eq_true, Bool.not_eq_true', List.any_eq_false,
    List.isEmpty_iff] at h
  obtain ⟨r, -, rfl⟩ := List.mem_map.1 hp
  exact ⟨h.2 _ hp, Text.isTrimmed_trim r⟩

/-- **The analyses of a file** are those of its well-formed lines: a word has the parts of the lines
about it, in file order and whatever its case, and there are as many words as such lines name. No
other line matters, and no part is empty or has white space around it. -/
theorem load_wellFormed {files : Files} {path t : Text} (htext : files.load path = .ok t) :
    ∃ a, Analyses.load files path = .ok a ∧
      (∀ w, a.ofWord w = (((Text.lines t).filter isWellFormed).filter fun line =>
        Text.lower (wordOf line) == Text.lower w).map partsOf) ∧
      (∀ u, (Text.lines u).filter isWellFormed = (Text.lines t).filter isWellFormed →
        ofLines u = a) ∧
      (∀ w, ∀ ps ∈ a.ofWord w, ∀ p ∈ ps, p ≠ [] ∧ IsTrimmed p) ∧
      a.size = (((Text.lines t).filter isWellFormed).map fun line =>
        Text.lower (wordOf line)).toFinset.card := by
  have htold := told_ofLines t
  rw [filterMap_said?] at htold
  have hword : ∀ w, (ofLines t).ofWord w = (((Text.lines t).filter isWellFormed).filter fun line =>
      Text.lower (wordOf line) == Text.lower w).map partsOf := by
    intro w
    rw [htold.ofWord_eq, List.filter_map, List.map_map]
    rfl
  refine ⟨ofLines t, ?_, hword, fun u hu => ?_, fun w ps hps p hp => ?_, ?_⟩
  · rw [Analyses.load, htext]
    rfl
  · rw [ofLines_eq, ofLines_eq, filterMap_said?, filterMap_said?, hu]
  · rw [hword] at hps
    obtain ⟨line, hline, rfl⟩ := List.mem_map.1 hps
    exact isTrimmed_of_mem_partsOf (List.mem_filter.1 (List.mem_filter.1 hline).1).2 hp
  · rw [htold.size_eq, List.map_map]
    rfl

/-- Three analyses between a comment, a line without a tab and one with an empty part. -/
def garageText : Text :=
  "# analyses\nGarageneinfahrt\tGarage+n+Einfahrt\r\nno tab here\nhaustür\thaus++tür\n" ++
    " Haustür\t haus + tür \nHAUSTÜR\thau+stür\r"

/-- Their lines alone. -/
def garageLines : Text :=
  "Garageneinfahrt\tGarage+n+Einfahrt\n Haustür\t haus + tür \nHAUSTÜR\thau+stür\r"

/-- A folder with one file of analyses. -/
def garageFiles : Files where
  home := []
  entries := [(["de.tsv"], .file (Utf8.encode garageText))]

/-- Both analyses of one of the words are found in any case. -/
theorem load_wellFormed_garage :
    garageFiles.load "de.tsv" = .ok garageText ∧
      (Text.lines garageLines).filter isWellFormed = (Text.lines garageText).filter isWellFormed ∧
      ∃ a, Analyses.load garageFiles "de.tsv" = .ok a ∧
        a.ofWord "HausTür" = ([["haus", "tür"], ["hau", "stür"]] : List (List Text)) ∧
        ofLines garageLines = a ∧ IsTrimmed "stür" ∧ a.size = 2 := by
  have htext : garageFiles.load "de.tsv" = .ok garageText := by decide +kernel
  have hlines : (Text.lines garageLines).filter isWellFormed =
      (Text.lines garageText).filter isWellFormed := by decide +kernel
  obtain ⟨a, hload, hword, hothers, htrimmed, hsize⟩ := load_wellFormed htext
  have hboth : a.ofWord "HausTür" = ([["haus", "tür"], ["hau", "stür"]] : List (List Text)) := by
    rw [hword]
    decide +kernel
  have hmem : (["hau", "stür"] : List Text) ∈ a.ofWord "HausTür" := by
    rw [hboth]
    simp
  refine ⟨htext, hlines, a, hload, hboth, hothers _ hlines, ?_, ?_⟩
  · exact (htrimmed _ _ hmem "stür" (by simp)).2
  · rw [hsize]
    decide +kernel

end Kompositum.Analyses

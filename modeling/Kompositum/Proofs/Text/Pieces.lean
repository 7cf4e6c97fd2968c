import Mathlib.Data.List.TakeWhile
import Kompositum.Ngram.Gram
import Kompositum.Proofs.Text.Utf8

/-!
# Cutting and joining

A text cut at a character and joined by it again is the same text, and so is a row of pieces that
do not hold the character.

* `splitWhen_append_cons`: a list is cut wherever a separator stands.
* `splitOn_join`: pieces joined and cut again.
* `cutAt?_eq_some_iff`: a text cut at the first place where a character stands.
* `size_join_words_le`: the number of bytes of words with one space between them.
* `mem_words`: what words are made of.
* `words_trim`: white space around a text belongs to no word.
-/

namespace Kompositum.Text

variable {α : Type} {p : α → Bool}

theorem splitWhen_ne_nil (p : α → Bool) (t : List α) : splitWhen p t ≠ [] := by
  cases t with
  | nil => simp [splitWhen]
  | cons c t =>
    rw [splitWhen]
    split
    · simp
    · split <;> simp

/-- An element is a separator or belongs to the first piece. -/
theorem splitWhen_cons (p : α → Bool) (c : α) (t : List α) :
    ∃ w ws, splitWhen p t = w :: ws ∧
      splitWhen p (c :: t) = if p c then [] :: w :: ws else (c :: w) :: ws := by
  obtain ⟨w, ws, h⟩ := List.exists_cons_of_ne_nil (splitWhen_ne_nil p t)
  exact ⟨w, ws, h, by rw [splitWhen, h]⟩

/-- There is a piece more than there are separators. -/
theorem length_splitWhen_le (p : α → Bool) (t : List α) :
    (splitWhen p t).length ≤ t.length + 1 := by
  induction t with
  | nil => exact Nat.le_refl 1
  | cons c t ih =>
    obtain ⟨w, ws, ht, hct⟩ := splitWhen_cons p c t
    rw [ht] at ih
    rw [hct]
    simp only [List.length_cons] at ih
    split <;> simp only [List.length_cons] <;> omega

/-- **A list is cut wherever a separator stands.** -/
theorem splitWhen_append_cons {c : α} (hc : p c = true) (s t : List α) :
    splitWhen p (s ++ c :: t) = splitWhen p s ++ splitWhen p t := by
  induction s with
  | nil =>
    obtain ⟨w, ws, ht, hct⟩ := splitWhen_cons p c t
    rw [List.nil_append, hct, if_pos hc, ← ht]
    rfl
  | cons a s ih =>
    obtain ⟨w, ws, hs, has⟩ := splitWhen_cons p a s
    obtain ⟨w', ws', hst, hast⟩ := splitWhen_cons p a (s ++ c :: t)
    rw [ih, hs, List.cons_append] at hst
    obtain ⟨rfl, rfl⟩ := List.cons.inj hst
    rw [List.cons_append, hast, has]
    split <;> rfl

/-- A list without separators is one piece. -/
theorem splitWhen_of_forall_not {t : List α} (h : ∀ c ∈ t, p c = false) : splitWhen p t = [t] := by
  induction t with
  | nil => rfl
  | cons c t ih =>
    rw [splitWhen, ih fun d hd => h d (List.mem_cons_of_mem c hd)]
    simp [h c List.mem_cons_self]

/-- No piece holds a separator. -/
theorem not_of_mem_splitWhen {t w : List α} (hw : w ∈ splitWhen p t) :
    ∀ c ∈ w, p c = false := by
  induction t generalizing w with
  | nil =>
    obtain rfl := List.mem_singleton.1 hw
    simp
  | cons c t ih =>
    obtain ⟨v, vs, ht, hct⟩ := splitWhen_cons p c t
    rw [ht] at ih
    rw [hct] at hw
    intro d hd
    split at hw
    · rcases List.mem_cons.1 hw with rfl | hw
      · simp at hd
      · exact ih hw d hd
    · rename_i hc
      rcases List.mem_cons.1 hw with rfl | hw
      · rcases List.mem_cons.1 hd with rfl | hd
        · simpa using hc
        · exact ih List.mem_cons_self d hd
      · exact ih (List.mem_cons_of_mem v hw) d hd

/-- A piece is part of the list. -/
theorem sublist_of_mem_splitWhen {t w : List α} (hw : w ∈ splitWhen p t) : w.Sublist t := by
  induction t generalizing w with
  | nil =>
    obtain rfl := List.mem_singleton.1 hw
    exact .refl _
  | cons c t ih =>
    obtain ⟨v, vs, ht, hct⟩ := splitWhen_cons p c t
    rw [ht] at ih
    rw [hct] at hw
    split at hw
    · rcases List.mem_cons.1 hw with rfl | hw
      · exact List.nil_sublist _
      · exact (ih hw).cons c
    · rcases List.mem_cons.1 hw with rfl | hw
      · exact (ih List.mem_cons_self).cons_cons c
      · exact (ih (List.mem_cons_of_mem v hw)).cons c

/-! ## Cutting once -/

theorem cutAt?_cons (c d : Char) (t : Text) :
    cutAt? c (d :: t) =
      if d = c then some ([], t) else (cutAt? c t).map fun (s, r) => (d :: s, r) := by
  rw [cutAt?]
  simp only [beq_iff_eq]

/-- **A text is cut where the character first stands.** -/
theorem cutAt?_eq_some_iff {c : Char} {t s r : Text} :
    cutAt? c t = some (s, r) ↔ t = s ++ c :: r ∧ c ∉ s := by
  induction t generalizing s with
  | nil => simp [cutAt?]
  | cons d t ih =>
    rw [cutAt?_cons]
    by_cases hd : d = c
    · subst hd
      cases s with
      | nil => simp [eq_comm]
      | cons e s => simp +contextual
    · cases s with
      | nil => simp [hd]
      | cons e s =>
        rw [if_neg hd, Option.map_eq_some_iff]
        constructor
        · rintro ⟨⟨u, v⟩, hcut, heq⟩
          obtain ⟨⟨rfl, rfl⟩, rfl⟩ : (d = e ∧ u = s) ∧ v = r := by simpa using heq
          obtain ⟨rfl, hu⟩ := ih.1 hcut
          exact ⟨rfl, by simp [hu, Ne.symm hd]⟩
        · rintro ⟨ht, hs⟩
          obtain ⟨rfl, rfl⟩ := List.cons.inj ht
          exact ⟨(s, r), ih.2 ⟨rfl, fun hm => hs (List.mem_cons_of_mem d hm)⟩, rfl⟩

theorem cutAt?_eq_none_iff {c : Char} {t : Text} : cutAt? c t = none ↔ c ∉ t := by
  induction t with
  | nil => simp [cutAt?]
  | cons d t ih =>
    rw [cutAt?_cons]
    by_cases hd : d = c
    · simp [hd]
    · simp [hd, ih, Ne.symm hd]

/-! ## Joining -/

theorem join_cons_cons (sep s t : Text) (ts : List Text) :
    join sep (s :: t :: ts) = s ++ (sep ++ join sep (t :: ts)) := by
  rw [join, List.append_assoc]
  simp

/-- **Pieces joined and cut again.** -/
theorem splitOn_join {c : Char} {ts : List Text} (hne : ts ≠ []) (h : ∀ t ∈ ts, c ∉ t) :
    splitOn c (join [c] ts) = ts := by
  have hpiece : ∀ t ∈ ts, ∀ d ∈ t, (d == c) = false := by
    intro t ht d hd
    exact beq_false_of_ne fun heq => h t ht (heq ▸ hd)
  unfold splitOn
  induction ts with
  | nil => exact absurd rfl hne
  | cons t ts ih =>
    have hfirst := splitWhen_of_forall_not (hpiece t List.mem_cons_self)
    cases ts with
    | nil => exact hfirst
    | cons u us =>
      rw [join_cons_cons, List.singleton_append, splitWhen_append_cons (by simp), hfirst,
        ih (by simp) (fun s hs => h s (List.mem_cons_of_mem t hs))
          (fun s hs => hpiece s (List.mem_cons_of_mem t hs))]
      rfl

/-! ## Sizes -/

/-- The number of bytes of some texts, with one after each of them. -/
def spread : List Text → Nat
  | [] => 0
  | t :: ts => Utf8.size t + 1 + spread ts

theorem spread_le_of_sublist {ts us : List Text} (h : ts.Sublist us) : spread ts ≤ spread us := by
  induction h with
  | slnil => exact Nat.le_refl 0
  | cons u _ ih => exact Nat.le_trans ih (Nat.le_add_left _ _)
  | cons_cons u _ ih => exact Nat.add_le_add_left ih _

/-- The pieces of a text, with a byte after each, take no more than the text and one byte. -/
theorem spread_splitWhen_le (p : Char → Bool) (t : Text) :
    spread (splitWhen p t) ≤ Utf8.size t + 1 := by
  induction t with
  | nil => exact Nat.le_refl 1
  | cons c t ih =>
    obtain ⟨w, ws, ht, hct⟩ := splitWhen_cons p c t
    have hc := Utf8.length_encodeChar_pos c
    rw [ht, spread] at ih
    rw [hct, Utf8.size_cons]
    split
    · simp only [spread, Utf8.size_nil]
      omega
    · simp only [spread, Utf8.size_cons]
      omega

theorem size_join_space {ts : List Text} (hne : ts ≠ []) :
    Utf8.size (join [' '] ts) + 1 = spread ts := by
  induction ts with
  | nil => exact absurd rfl hne
  | cons t ts ih =>
    cases ts with
    | nil => rfl
    | cons u us =>
      have hspace : Utf8.size [' '] = 1 := by decide
      have hrest := ih (List.cons_ne_nil u us)
      rw [join_cons_cons, Utf8.size_append, Utf8.size_append, hspace, spread]
      omega

/-- **Words with one space between them** take no more bytes than the text that they are from. -/
theorem size_join_words_le {t : Text} {ts : List Text} (h : ts.Sublist (words t)) :
    Utf8.size (join [' '] ts) ≤ Utf8.size t := by
  by_cases hne : ts = []
  · rw [hne]
    exact Nat.zero_le _
  · have hjoin := size_join_space hne
    have hwords := spread_le_of_sublist (h.trans List.filter_sublist)
    have hpieces := spread_splitWhen_le Character.isBlank t
    omega

/-- A piece of a text takes no more bytes. -/
theorem size_le_of_sublist {t u : Text} (h : t.Sublist u) : Utf8.size t ≤ Utf8.size u := by
  induction h with
  | slnil => exact Nat.le_refl 0
  | cons c _ ih =>
    rw [Utf8.size_cons]
    omega
  | cons_cons c _ ih =>
    rw [Utf8.size_cons, Utf8.size_cons]
    omega

/-- **What words are made of.** -/
theorem mem_words {t w : Text} (h : w ∈ words t) :
    w ≠ [] ∧ ∀ c ∈ w, Character.isBlank c = false := by
  obtain ⟨hw, hne⟩ := List.mem_filter.1 h
  exact ⟨by simpa using hne, not_of_mem_splitWhen hw⟩

/-! ## White space around words -/

open Character (isBlank)

/-- White space stands between words; what else is known of words follows from this. -/
theorem words_append_cons {c : Char} (hc : isBlank c = true) (s t : Text) :
    words (s ++ c :: t) = words s ++ words t := by
  unfold words
  rw [splitWhen_append_cons hc, List.filter_append]

theorem words_cons_of_isBlank {c : Char} (hc : isBlank c = true) (t : Text) :
    words (c :: t) = words t := words_append_cons hc [] t

/-- A character that is no white space begins the first word. -/
theorem words_cons_of_not_isBlank {c : Char} (hc : isBlank c = false) (t : Text) :
    ∃ w ws, words (c :: t) = (c :: w) :: ws := by
  obtain ⟨w, ws, -, hct⟩ := splitWhen_cons isBlank c t
  refine ⟨w, ws.filter (!·.isEmpty), ?_⟩
  unfold words
  rw [hct, hc]
  rfl

/-- Only white space has no words. -/
theorem words_eq_nil_iff {t : Text} : words t = [] ↔ ∀ c ∈ t, isBlank c = true := by
  induction t with
  | nil => simp [words, splitWhen]
  | cons c t ih =>
    rw [List.forall_mem_cons]
    by_cases hc : isBlank c = true
    · rw [words_cons_of_isBlank hc, ih, and_iff_right hc]
    · obtain ⟨w, ws, -, hcut⟩ := splitWhen_cons isBlank c t
      refine iff_of_false ?_ fun h => hc h.1
      unfold words
      rw [hcut, if_neg hc]
      simp

/-- White space after a text belongs to no word. -/
theorem words_append_blank {u : Text} (h : ∀ c ∈ u, isBlank c = true) (t : Text) :
    words (t ++ u) = words t := by
  cases u with
  | nil => rw [List.append_nil]
  | cons c u =>
    obtain ⟨hc, hu⟩ := List.forall_mem_cons.1 h
    rw [words_append_cons hc, words_eq_nil_iff.2 hu, List.append_nil]

/-- What is dropped from the end of a text belongs to no word if it is white space. -/
theorem words_dropWhile_reverse {p : Char → Bool} (h : ∀ c, p c = true → isBlank c = true)
    (t : Text) : words (t.reverse.dropWhile p).reverse = words t := by
  have hsplit : t = (t.reverse.dropWhile p).reverse ++ (t.reverse.takeWhile p).reverse := by
    rw [← List.reverse_append, List.takeWhile_append_dropWhile, List.reverse_reverse]
  have hblank : ∀ c ∈ (t.reverse.takeWhile p).reverse, isBlank c = true := fun c hc =>
    h c (List.all_eq_true.1 List.all_takeWhile c (List.mem_reverse.1 hc))
  conv => rhs; rw [hsplit, words_append_blank hblank]

/-- The carriage returns at the end of a line belong to no word. -/
theorem words_dropReturns (t : Text) : words (dropReturns t) = words t :=
  words_dropWhile_reverse (fun c hc => by rw [eq_of_beq hc]; decide) t

/-- Whether a text is blank does not depend on the carriage returns at its end. -/
theorem isBlankText_dropReturns (t : Text) : isBlankText (dropReturns t) = isBlankText t := by
  have hblank : ∀ t, isBlankText t = true ↔ words t = [] := by
    intro t
    rw [words_eq_nil_iff, isBlankText, List.all_eq_true]
  rw [Bool.eq_iff_iff, hblank, hblank, words_dropReturns]

/-- **White space around a text** belongs to no word. -/
theorem words_trim (t : Text) : words (trim t) = words t := by
  have hstart : words (t.dropWhile isBlank) = words t := by
    induction t with
    | nil => rfl
    | cons c t ih =>
      by_cases hc : isBlank c = true
      · rw [List.dropWhile_cons_of_pos hc, ih, words_cons_of_isBlank hc]
      · rw [List.dropWhile_cons_of_neg hc]
  rw [trim, trimEnd, words_dropWhile_reverse fun _ hc => hc, hstart]

/-- Nothing is left of a text without words. -/
theorem trim_eq_nil_iff {t : Text} : trim t = [] ↔ words t = [] := by
  constructor
  · intro h
    rw [← words_trim, h]
    rfl
  · intro h
    have hblank : t.dropWhile isBlank = [] := List.dropWhile_eq_nil_iff.2 (words_eq_nil_iff.1 h)
    rw [trim, hblank]
    rfl

theorem trim_ne_nil_iff {t : Text} : trim t ≠ [] ↔ ∃ w ws, words t = w :: ws := by
  rw [Ne, trim_eq_nil_iff]
  exact List.ne_nil_iff_exists_cons

end Kompositum.Text

namespace Kompositum.Ngram

/-- A token is not empty and holds no white space. -/
def IsToken (t : Text) : Prop := t ≠ [] ∧ ∀ c ∈ t, Character.isBlank c = false

theorem IsToken.space_notMem {t : Text} (h : IsToken t) : ' ' ∉ t := fun hm =>
  absurd (h.2 _ hm) (by decide)

/-- **The pieces of a gram** are the tokens that it was written with. -/
theorem pieces_unwords {tokens : List Text} (hne : tokens ≠ []) (h : ∀ t ∈ tokens, IsToken t) :
    pieces (unwords tokens) = tokens :=
  Text.splitOn_join hne fun t ht => (h t ht).space_notMem

/-- Different rows of tokens are written differently. -/
theorem unwords_inj {ts us : List Text} (hts : ∀ t ∈ ts, IsToken t) (hus : ∀ t ∈ us, IsToken t)
    (h : unwords ts = unwords us) : ts = us := by
  have hnil : ∀ {vs : List Text}, (∀ t ∈ vs, IsToken t) → unwords vs = [] → vs = [] := by
    intro vs hvs hv
    cases vs with
    | nil => rfl
    | cons v vs =>
      have hpieces := pieces_unwords (List.cons_ne_nil v vs) hvs
      rw [hv] at hpieces
      obtain ⟨rfl, -⟩ := List.cons.inj hpieces
      exact absurd rfl (hvs _ List.mem_cons_self).1
  by_cases hne : ts = []
  · subst hne
    exact (hnil hus h.symm).symm
  · by_cases hne' : us = []
    · subst hne'
      exact hnil hts h
    · rw [← pieces_unwords hne hts, h, pieces_unwords hne' hus]

/-- **The words of a gram** are the tokens that it was written with. -/
theorem words_unwords {tokens : List Text} (h : ∀ t ∈ tokens, IsToken t) :
    Text.words (unwords tokens) = tokens := by
  have hword {t : Text} (ht : IsToken t) : Text.words t = [t] := by
    have hcut : Text.splitWhen Character.isBlank t = [t] := Text.splitWhen_of_forall_not ht.2
    unfold Text.words
    rw [hcut, List.filter_cons_of_pos (by simpa using ht.1), List.filter_nil]
  induction tokens with
  | nil => rfl
  | cons t tokens ih =>
    have ht := h t List.mem_cons_self
    cases tokens with
    | nil => exact hword ht
    | cons u tokens =>
      have hrest := ih fun v hv => h v (List.mem_cons_of_mem t hv)
      have hjoin : unwords (t :: u :: tokens) = t ++ ' ' :: unwords (u :: tokens) :=
        Text.join_cons_cons [' '] t u tokens
      rw [hjoin, Text.words_append_cons (by decide), hword ht, hrest, List.singleton_append]

end Kompositum.Ngram

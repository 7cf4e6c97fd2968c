import Kompositum.Lexicon.Affix
import Kompositum.Pattern.Parser
import Kompositum.Proofs.Concat
import Kompositum.Proofs.Text.Pieces
import Mathlib.Data.List.Induction

/-!
# The lines of an affix file

A line about affixes is a header or a rule; other lines have no meaning. A rule needs a header of
its flag on an earlier line, so whether a line is in order depends on the lines before it.

* `About`, `IsHeader`, `IsRule`: what a line is.
* `Offends`, `InOrder`: whether lines are in order, each one after the lines before it.
* `addLine?_eq_some_iff`: what one line adds.
* `Told`: what has been read is what the lines so far tell. Every line in order keeps this
  (`Told.addLine?`).
* `readByLines`: a file is read if no line offends, and the first line that offends is blamed.
-/

namespace Kompositum

variable {P : Type} [PatternLanguage P]

namespace AffixFile

/-- **A line about affixes of a kind**, and its fields after the keyword: the line is neither blank
nor a comment, and the keyword is its first field. -/
def About (line : Text) (kind : AffixKind) (fields : List Text) : Prop :=
  Text.trim line ≠ [] ∧ (Text.trim line).head? ≠ some '#' ∧
    Text.words (Text.trim line) = kind.keyword :: fields

/-- **A header**: a flag of one character, whether it allows cross products, and a count. -/
inductive IsHeader : Text → AffixKind → Char → Bool → Prop
  | allowing {line count : Text} {kind : AffixKind} {flag : Char} {n : Nat}
      (h : About line kind [[flag], ['Y'], count]) (hn : Count.ofText? count = some n) :
      IsHeader line kind flag true
  | forbidding {line count : Text} {kind : AffixKind} {flag : Char} {n : Nat}
      (h : About line kind [[flag], ['N'], count]) (hn : Count.ofText? count = some n) :
      IsHeader line kind flag false

/-- **A rule**: a flag of one character, what is stripped, the affix and a condition, which is a
pattern when it is tied to the end of the word. -/
structure IsRule (line : Text) (r : AffixRule P) : Prop where
  pattern : PatternLanguage.parse? (AffixRule.anchored r.kind r.condition) = some r.pattern
  fields : ∃ stripped affix, About line r.kind [[r.flag], stripped, affix, r.condition] ∧
    r.stripped = AffixRule.orNothing stripped ∧
    r.affix = AffixRule.orNothing (affix.takeWhile (· != '/'))

/-- The last header of a flag. -/
def LastHeader (lines : List Text) (kind : AffixKind) (flag : Char) (cross : Bool) : Prop :=
  ∃ before line after, lines = before ++ line :: after ∧ IsHeader line kind flag cross ∧
    ∀ l ∈ after, ∀ c, ¬ IsHeader l kind flag c

/-- **A line offends** if it is about affixes, but neither a header nor a rule of a flag that has a
header on an earlier line. -/
def Offends (P : Type) [PatternLanguage P] (before : List Text) (line : Text) : Prop :=
  (∃ kind fields, About line kind fields) ∧
    (∀ kind flag cross, ¬ IsHeader line kind flag cross) ∧
    ∀ r : AffixRule P, IsRule line r → ∀ l ∈ before, ∀ cross, ¬ IsHeader l r.kind r.flag cross

/-- **Lines are in order** if none of them offends after the lines before it. -/
def InOrder (P : Type) [PatternLanguage P] (lines : List Text) : Prop :=
  ∀ before line after, lines = before ++ line :: after → ¬ Offends P before line

/-- **The rules among the lines**, in the order of the lines. -/
inductive RulesOf : List Text → List (AffixRule P) → Prop
  | nil : RulesOf [] []
  | rule {lines : List Text} {rules : List (AffixRule P)} {line : Text} {r : AffixRule P}
      (h : RulesOf lines rules) (hr : IsRule line r) : RulesOf (lines ++ [line]) (rules ++ [r])
  | other {lines : List Text} {rules : List (AffixRule P)} {line : Text}
      (h : RulesOf lines rules) (hr : ∀ r : AffixRule P, ¬ IsRule line r) :
      RulesOf (lines ++ [line]) rules

variable {a b : AffixFile P} {line : Text} {lines before : List Text} {kind : AffixKind}
  {flag : Char} {cross : Bool} {r : AffixRule P} {fields : List Text}

/-! ## What a line is about -/

theorem ofKeyword?_eq_some_iff {t : Text} :
    AffixKind.ofKeyword? t = some kind ↔ t = kind.keyword := by
  constructor
  · intro h
    have hkeyword := List.find?_some h
    exact (eq_of_beq hkeyword).symm
  · rintro rfl
    cases kind <;> rfl

theorem head?_keyword_ne (kind : AffixKind) : kind.keyword.head? ≠ some '#' := by
  cases kind <;> decide

theorem keyword_injective {k : AffixKind} (h : k.keyword = kind.keyword) : k = kind := by
  have hk := ofKeyword?_eq_some_iff.2 (rfl : k.keyword = k.keyword)
  rw [h, ofKeyword?_eq_some_iff.2 rfl] at hk
  exact (Option.some.inj hk).symm

/-- Only a line that is neither blank nor a comment begins with a keyword. -/
theorem about_iff : About line kind fields ↔ Text.words line = kind.keyword :: fields := by
  unfold About
  rw [Text.words_trim]
  constructor
  · rintro ⟨-, -, h⟩
    exact h
  · intro h
    refine ⟨Text.trim_ne_nil_iff.2 ⟨_, _, h⟩, ?_, h⟩
    intro hhead
    rw [← Text.words_trim] at h
    cases hline : Text.trim line with
    | nil =>
      rw [hline] at hhead
      cases hhead
    | cons c t =>
      rw [hline] at hhead h
      obtain rfl := Option.some.inj hhead
      obtain ⟨w, ws, hwords⟩ := Text.words_cons_of_not_isBlank (c := '#') (by decide) t
      rw [hwords] at h
      have hkeyword := head?_keyword_ne kind
      rw [← (List.cons.inj h).1] at hkeyword
      exact hkeyword rfl

theorem About.inj {k : AffixKind} {fs : List Text} (h : About line kind fields)
    (h' : About line k fs) : kind = k ∧ fields = fs := by
  rw [about_iff] at h h'
  obtain ⟨hkeyword, hfields⟩ := List.cons.inj (h.symm.trans h')
  exact ⟨keyword_injective hkeyword, hfields⟩

/-- The fields of a header. -/
theorem IsHeader.about (h : IsHeader line kind flag cross) :
    ∃ permission count, About line kind [[flag], permission, count] := by
  cases h with
  | allowing h _ => exact ⟨_, _, h⟩
  | forbidding h _ => exact ⟨_, _, h⟩

/-- A line is a header of one flag only. -/
theorem IsHeader.inj {k : AffixKind} {f : Char} {c : Bool} (h : IsHeader line kind flag cross)
    (h' : IsHeader line k f c) : kind = k ∧ flag = f ∧ cross = c := by
  cases h with
  | allowing h _ =>
    cases h' with
    | allowing h' _ =>
      obtain ⟨rfl, hfields⟩ := h.inj h'
      simp at hfields
      exact ⟨rfl, hfields.1, rfl⟩
    | forbidding h' _ =>
      have hfields := (h.inj h').2
      simp at hfields
  | forbidding h _ =>
    cases h' with
    | allowing h' _ =>
      have hfields := (h.inj h').2
      simp at hfields
    | forbidding h' _ =>
      obtain ⟨rfl, hfields⟩ := h.inj h'
      simp at hfields
      exact ⟨rfl, hfields.1, rfl⟩

/-- A header has fewer fields than a rule. -/
theorem IsHeader.not_isRule (h : IsHeader line kind flag cross) : ¬ IsRule line r := by
  intro hr
  obtain ⟨permission, count, h⟩ := h.about
  obtain ⟨stripped, affix, h', -⟩ := hr.fields
  have hfields := (h.inj h').2
  simp at hfields

/-- A line is one rule only. -/
theorem IsRule.unique {r' : AffixRule P} (h : IsRule line r) (h' : IsRule line r') : r = r' := by
  obtain ⟨kind, flag, stripped, affix, condition, pattern⟩ := r
  obtain ⟨kind', flag', stripped', affix', condition', pattern'⟩ := r'
  obtain ⟨hpattern, s, x, habout, hs, hx⟩ := h
  obtain ⟨hpattern', s', x', habout', hs', hx'⟩ := h'
  dsimp only at hpattern hpattern' habout habout' hs hs' hx hx'
  obtain ⟨rfl, hfields⟩ := habout.inj habout'
  simp only [List.cons.injEq, and_true] at hfields
  obtain ⟨rfl, rfl, rfl, rfl⟩ := hfields
  rw [hpattern] at hpattern'
  rw [hs, hs', hx, hx', Option.some.inj hpattern']

theorem rulesOf_concat {rules : List (AffixRule P)} (h : RulesOf (lines ++ [line]) rules) :
    (∃ rules' r, RulesOf lines rules' ∧ IsRule line r ∧ rules = rules' ++ [r]) ∨
      (RulesOf lines rules ∧ ∀ r : AffixRule P, ¬ IsRule line r) := by
  generalize hall : lines ++ [line] = all at h
  cases h with
  | nil => simp at hall
  | rule h hr =>
    obtain ⟨rfl, hline⟩ := List.append_inj' hall rfl
    obtain rfl := List.singleton_inj.1 hline
    exact .inl ⟨_, _, h, hr, rfl⟩
  | other h hr =>
    obtain ⟨rfl, hline⟩ := List.append_inj' hall rfl
    obtain rfl := List.singleton_inj.1 hline
    exact .inr ⟨h, hr⟩

/-- Lines have one row of rules only. -/
theorem RulesOf.unique {rules rules' : List (AffixRule P)} (h : RulesOf lines rules)
    (h' : RulesOf lines rules') : rules' = rules := by
  induction h generalizing rules' with
  | nil =>
    generalize hall : ([] : List Text) = all at h'
    cases h' with
    | nil => rfl
    | rule => simp at hall
    | other => simp at hall
  | rule h hr ih =>
    rcases rulesOf_concat h' with ⟨rules'', r', h'', hr', rfl⟩ | ⟨-, hnone⟩
    · rw [ih h'', hr.unique hr']
    · exact absurd hr (hnone _)
  | other h hr ih =>
    rcases rulesOf_concat h' with ⟨rules'', r', -, hr', -⟩ | ⟨h'', -⟩
    · exact absurd hr' (hr _)
    · exact ih h''

/-! ## What one line adds -/

theorem addLine?_of_about (h : About line kind fields) (a : AffixFile P) :
    a.addLine? line = a.addFields? kind fields := by
  unfold addLine?
  rw [about_iff.1 h]
  have hkeyword : AffixKind.ofKeyword? kind.keyword = some kind := ofKeyword?_eq_some_iff.2 rfl
  simp only [if_neg (head?_keyword_ne kind), hkeyword]

theorem addLine?_of_not_about (h : ∀ kind fields, ¬ About line kind fields) (a : AffixFile P) :
    a.addLine? line = some a := by
  unfold addLine?
  cases hwords : Text.words line with
  | nil => rfl
  | cons keyword fields =>
    cases hkind : AffixKind.ofKeyword? keyword with
    | none => simp only [hkind, ite_self]
    | some kind =>
      rw [ofKeyword?_eq_some_iff.1 hkind] at hwords
      exact absurd (about_iff.2 hwords) (h kind fields)

theorem addLine?_of_isHeader (h : IsHeader line kind flag cross) (a : AffixFile P) :
    a.addLine? line = some { a with headers := ((kind, flag), cross) :: a.headers } := by
  cases h with
  | allowing h hn => simp [addLine?_of_about h, addFields?, hn]
  | forbidding h hn => simp [addLine?_of_about h, addFields?, hn]

theorem addLine?_of_isRule (h : IsRule line r) (a : AffixFile P) :
    a.addLine? line =
      if (a.header? r.kind r.flag).isSome then some { a with rules := a.rules ++ [r] }
      else none := by
  obtain ⟨kind, flag, stripped, affix, condition, pattern⟩ := r
  obtain ⟨hpattern, s, x, hfields, hs, hx⟩ := h
  dsimp only at hpattern hfields hs hx
  simp [addLine?_of_about hfields, addFields?, AffixRule.ofFields?, hpattern, hs, hx]

theorem isRule_of_ofFields? {stripped affix condition : Text}
    (h : About line kind [[flag], stripped, affix, condition])
    (hr : AffixRule.ofFields? kind flag stripped affix condition = some r) :
    IsRule line r ∧ r.kind = kind ∧ r.flag = flag := by
  obtain ⟨pattern, hpattern, rfl⟩ := Option.map_eq_some_iff.1 hr
  exact ⟨⟨hpattern, stripped, affix, h, rfl, rfl⟩, rfl, rfl⟩

/-- A line about affixes that is taken is a header, or a rule of a flag that has a header. -/
theorem addFields?_cases (h : About line kind fields) (hb : a.addFields? kind fields = some b) :
    (∃ kind flag cross, IsHeader line kind flag cross ∧
        b = { a with headers := ((kind, flag), cross) :: a.headers }) ∨
      ∃ r, IsRule line r ∧ (a.header? r.kind r.flag).isSome ∧
        b = { a with rules := a.rules ++ [r] } := by
  unfold addFields? at hb
  split at hb
  case h_1 flag permission count =>
    obtain ⟨hcond, hb⟩ := Option.ite_none_right_eq_some.1 hb
    simp only [Bool.and_eq_true, Bool.or_eq_true, decide_eq_true_eq,
      Option.isSome_iff_exists] at hcond
    obtain ⟨hpermission, n, hn⟩ := hcond
    obtain rfl := Option.some.inj hb
    rcases hpermission with rfl | rfl
    · exact .inl ⟨kind, flag, true, .allowing h hn, rfl⟩
    · exact .inl ⟨kind, flag, false, .forbidding h hn, rfl⟩
  case h_2 flag stripped affix condition =>
    obtain ⟨hheader, hb⟩ := Option.ite_none_right_eq_some.1 hb
    obtain ⟨r, hr, rfl⟩ := Option.map_eq_some_iff.1 hb
    obtain ⟨hrule, rfl, rfl⟩ := isRule_of_ofFields? h hr
    exact .inr ⟨r, hrule, hheader, rfl⟩
  case h_3 => cases hb

/-- **What one line adds**: a header, a rule of a flag that has a header, or nothing. -/
theorem addLine?_eq_some_iff :
    a.addLine? line = some b ↔
      (∃ kind flag cross, IsHeader line kind flag cross ∧
        b = { a with headers := ((kind, flag), cross) :: a.headers }) ∨
      (∃ r, IsRule line r ∧ (a.header? r.kind r.flag).isSome ∧
        b = { a with rules := a.rules ++ [r] }) ∨
      ((∀ kind fields, ¬ About line kind fields) ∧ b = a) := by
  constructor
  · intro hb
    by_cases habout : ∃ kind fields, About line kind fields
    · obtain ⟨kind, fields, h⟩ := habout
      rw [addLine?_of_about h] at hb
      rcases addFields?_cases h hb with hheader | hrule
      · exact .inl hheader
      · exact .inr (.inl hrule)
    · simp only [not_exists] at habout
      rw [addLine?_of_not_about habout] at hb
      exact .inr (.inr ⟨habout, (Option.some.inj hb).symm⟩)
  · rintro (⟨kind, flag, cross, h, rfl⟩ | ⟨r, h, hheader, rfl⟩ | ⟨h, rfl⟩)
    · exact addLine?_of_isHeader h a
    · rw [addLine?_of_isRule h, if_pos hheader]
    · exact addLine?_of_not_about h b

omit [PatternLanguage P] in
theorem header?_cons (hs : List ((AffixKind × Char) × Bool)) (k : AffixKind) (f : Char) (c : Bool)
    (rules : List (AffixRule P)) (kind : AffixKind) (flag : Char) :
    header? ⟨rules, ((k, f), c) :: hs⟩ kind flag =
      if k = kind ∧ f = flag then some c else header? ⟨rules, hs⟩ kind flag := by
  unfold header?
  by_cases hkey : k = kind ∧ f = flag
  · obtain ⟨rfl, rfl⟩ := hkey
    simp
  · rw [if_neg hkey, List.find?_cons_of_neg]
    simpa using hkey

/-- **What the headers say after one more line**: what the line says if it is a header of the flag,
and what they said before otherwise. -/
theorem header?_addLine? (hb : a.addLine? line = some b) :
    b.header? kind flag = some cross ↔
      IsHeader line kind flag cross ∨
        ((∀ c, ¬ IsHeader line kind flag c) ∧ a.header? kind flag = some cross) := by
  rcases addLine?_eq_some_iff.1 hb with ⟨k, f, c, hline, rfl⟩ | ⟨r, hr, -, rfl⟩ | ⟨hnot, rfl⟩
  · rw [header?_cons]
    by_cases hkey : k = kind ∧ f = flag
    · obtain ⟨rfl, rfl⟩ := hkey
      have hsame : ∀ c', IsHeader line k f c' ↔ c = c' := by
        intro c'
        constructor
        · intro hc'
          exact (hline.inj hc').2.2
        · rintro rfl
          exact hline
      simp [hsame]
    · have hother : ∀ c', ¬ IsHeader line kind flag c' := by
        intro c' hc'
        obtain ⟨hk, hf, -⟩ := hline.inj hc'
        exact hkey ⟨hk, hf⟩
      rw [if_neg hkey, or_iff_right (hother cross), and_iff_right hother]
  · have hline : ∀ c, ¬ IsHeader line kind flag c := fun c hheader => hheader.not_isRule hr
    rw [or_iff_right (hline cross), and_iff_right hline]
    rfl
  · have hline : ∀ c, ¬ IsHeader line kind flag c := by
      intro c hheader
      obtain ⟨permission, count, habout⟩ := hheader.about
      exact hnot _ _ habout
    rw [or_iff_right (hline cross), and_iff_right hline]

/-- The rules after one more line. -/
theorem rulesOf_addLine? (h : RulesOf lines a.rules) (hb : a.addLine? line = some b) :
    RulesOf (lines ++ [line]) b.rules := by
  rcases addLine?_eq_some_iff.1 hb with ⟨k, f, c, hline, rfl⟩ | ⟨r, hr, -, rfl⟩ | ⟨hnot, rfl⟩
  · exact .other h fun r => hline.not_isRule
  · exact .rule h hr
  · refine .other h ?_
    intro r hr
    obtain ⟨stripped, affix, habout, -⟩ := hr.fields
    exact hnot _ _ habout

/-! ## What the lines so far tell -/

theorem lastHeader_concat :
    LastHeader (lines ++ [line]) kind flag cross ↔
      IsHeader line kind flag cross ∨
        ((∀ c, ¬ IsHeader line kind flag c) ∧ LastHeader lines kind flag cross) := by
  constructor
  · rintro ⟨before, l, after, hlines, hl, hlast⟩
    rcases concat_eq_append_cons_iff.1 hlines with ⟨rfl, rfl, rfl⟩ | ⟨after', rfl, rfl⟩
    · exact .inl hl
    · obtain ⟨hlast', hline⟩ := forall_mem_concat_iff.1 hlast
      exact .inr ⟨hline, before, l, after', rfl, hl, hlast'⟩
  · rintro (h | ⟨hnone, before, l, after, rfl, hl, hlast⟩)
    · exact ⟨lines, line, [], rfl, h, nofun⟩
    · have hlast' := forall_mem_concat_iff.2 ⟨hlast, hnone⟩
      exact ⟨before, l, after ++ [line], by simp, hl, hlast'⟩

theorem not_lastHeader_nil : ¬ LastHeader [] kind flag cross := by
  rintro ⟨before, line, after, h, -⟩
  simp at h

/-- A flag that has a header has a last one. -/
theorem exists_lastHeader_iff :
    (∃ cross, LastHeader lines kind flag cross) ↔
      ∃ l ∈ lines, ∃ cross, IsHeader l kind flag cross := by
  induction lines using List.reverseRecOn with
  | nil => simp [not_lastHeader_nil]
  | append_singleton lines line ih =>
    simp only [lastHeader_concat, List.mem_append, List.mem_singleton, or_and_right, exists_or,
      exists_eq_left, ← ih]
    constructor
    · rintro (hline | ⟨cross, -, hlines⟩)
      · exact .inr hline
      · exact .inl ⟨cross, hlines⟩
    · rintro (⟨cross, hlines⟩ | hline)
      · by_cases hline : ∃ c, IsHeader line kind flag c
        · exact .inl hline
        · exact .inr ⟨cross, not_exists.1 hline, hlines⟩
      · exact .inl hline

theorem inOrder_nil : InOrder P [] := by
  intro before line after h
  simp at h

theorem inOrder_concat :
    InOrder P (lines ++ [line]) ↔ InOrder P lines ∧ ¬ Offends P lines line := by
  constructor
  · intro h
    refine ⟨?_, h lines line [] rfl⟩
    rintro before l after rfl
    exact h before l (after ++ [line]) (by simp)
  · rintro ⟨hlines, hline⟩ before l after hsplit
    rcases concat_eq_append_cons_iff.1 hsplit with ⟨rfl, rfl, -⟩ | ⟨after', -, hbefore⟩
    · exact hline
    · exact hlines before l after' hbefore

/-- **What has been read is what the lines so far tell**, and none of them offends. -/
structure Told (lines : List Text) (a : AffixFile P) : Prop where
  inOrder : InOrder P lines
  header_iff : ∀ {kind flag cross},
    a.header? kind flag = some cross ↔ LastHeader lines kind flag cross
  rules : RulesOf lines a.rules

theorem told_empty : Told [] (empty : AffixFile P) where
  inOrder := inOrder_nil
  header_iff := by
    intro kind flag cross
    exact iff_of_false nofun not_lastHeader_nil
  rules := .nil

namespace Told

variable (h : Told lines a)
include h

theorem isSome_header?_iff :
    (a.header? kind flag).isSome ↔ ∃ l ∈ lines, ∃ cross, IsHeader l kind flag cross := by
  rw [← exists_lastHeader_iff, Option.isSome_iff_exists]
  simp only [h.header_iff]

/-- **A line is refused** if it offends after the lines before it. -/
theorem addLine?_eq_none_iff : a.addLine? line = none ↔ Offends P lines line := by
  constructor
  · intro hnone
    refine ⟨?_, ?_, ?_⟩
    · by_contra habout
      simp only [not_exists] at habout
      rw [addLine?_of_not_about habout] at hnone
      cases hnone
    · intro kind flag cross hheader
      rw [addLine?_of_isHeader hheader] at hnone
      cases hnone
    · intro r hr l hl cross hheader
      have hsome := h.isSome_header?_iff.2 ⟨l, hl, cross, hheader⟩
      rw [addLine?_of_isRule hr, if_pos hsome] at hnone
      cases hnone
  · rintro ⟨⟨kind, fields, habout⟩, hheader, hrule⟩
    by_contra hsome
    obtain ⟨b, hb⟩ := Option.ne_none_iff_exists'.1 hsome
    rcases addLine?_eq_some_iff.1 hb with ⟨k, f, c, hk, -⟩ | ⟨r, hr, hr', -⟩ | ⟨hnot, -⟩
    · exact hheader k f c hk
    · obtain ⟨l, hl, c, hlc⟩ := h.isSome_header?_iff.1 hr'
      exact hrule r hr l hl c hlc
    · exact hnot kind fields habout

/-- **A line that is taken** is told of from then on. -/
theorem addLine? (hb : a.addLine? line = some b) : Told (lines ++ [line]) b where
  inOrder := by
    refine inOrder_concat.2 ⟨h.inOrder, ?_⟩
    rw [← h.addLine?_eq_none_iff, hb]
    exact nofun
  header_iff := by
    intro kind flag cross
    rw [header?_addLine? hb, lastHeader_concat, h.header_iff]
  rules := rulesOf_addLine? h.rules hb

/-- The lines of a file that is read to its end are told of. -/
theorem addLines_eq_ok {rest : List Text} (hb : a.addLines (lines.length + 1) rest = .ok b) :
    Told (lines ++ rest) b := by
  induction rest generalizing lines a with
  | nil =>
    obtain rfl := Except.ok.inj hb
    rw [List.append_nil]
    exact h
  | cons line rest ih =>
    unfold addLines at hb
    cases hline : a.addLine? line with
    | none =>
      rw [hline] at hb
      cases hb
    | some a' =>
      have hlength : lines.length + 1 + 1 = (lines ++ [line]).length + 1 := by simp
      rw [hline, hlength] at hb
      have htold := ih (h.addLine? hline) hb
      rwa [List.append_assoc] at htold

/-- The line that is blamed is the first one that offends. -/
theorem addLines_eq_error {rest : List Text} {n : Nat} {text : Text}
    (he : a.addLines (lines.length + 1) rest = .error ⟨n, text⟩) :
    ∃ mid after, rest = mid ++ text :: after ∧ n = (lines ++ mid).length + 1 ∧
      Offends P (lines ++ mid) text ∧ InOrder P (lines ++ mid) := by
  induction rest generalizing lines a with
  | nil => cases he
  | cons line rest ih =>
    unfold addLines at he
    cases hline : a.addLine? line with
    | none =>
      rw [hline] at he
      obtain ⟨rfl, rfl⟩ := AffixFault.mk.inj (Except.error.inj he)
      refine ⟨[], rest, rfl, by rw [List.append_nil], ?_, ?_⟩
      · rw [List.append_nil]
        exact h.addLine?_eq_none_iff.1 hline
      · rw [List.append_nil]
        exact h.inOrder
    | some a' =>
      have hlength : lines.length + 1 + 1 = (lines ++ [line]).length + 1 := by simp
      rw [hline, hlength] at he
      obtain ⟨mid, after, rfl, hn, hoffends, hbefore⟩ := ih (h.addLine? hline) he
      simp only [List.append_assoc, List.singleton_append] at hn hoffends hbefore
      exact ⟨line :: mid, after, rfl, hn, hoffends, hbefore⟩

end Told

/-- **What becomes of an affix file.** -/
structure ReadByLines (P : Type) [PatternLanguage P] (t : Text) : Prop where
  /-- It is read if its lines are in order. -/
  ok_iff : (∃ a, parse P t = .ok a) ↔ InOrder P (Text.lines t)
  /-- Its rules are those of the lines, in their order. -/
  rules : ∀ a, parse P t = .ok a → ∀ rules, RulesOf (Text.lines t) rules ↔ rules = a.rules
  /-- The last header of a flag says whether it allows cross products. -/
  header_iff : ∀ a, parse P t = .ok a → ∀ kind flag cross,
    a.header? kind flag = some cross ↔ LastHeader (Text.lines t) kind flag cross
  crosses_iff : ∀ a, parse P t = .ok a → ∀ kind flag,
    a.crosses kind flag = true ↔ LastHeader (Text.lines t) kind flag true
  /-- Otherwise the first line that offends is blamed, by its number from 1 on. -/
  fault : ∀ n text, parse P t = .error ⟨n, text⟩ →
    ∃ before after, Text.lines t = before ++ text :: after ∧ n = before.length + 1 ∧
      Offends P before text ∧ InOrder P before

/-- **An affix file is read line by line**: its rules and headers are those of its lines, unless a
line offends. -/
theorem readByLines (t : Text) : ReadByLines P t := by
  have hok : ∀ a, parse P t = .ok a → Told (Text.lines t) a :=
    fun _ => told_empty.addLines_eq_ok
  have herror : ∀ n text, parse P t = .error ⟨n, text⟩ →
      ∃ before after, Text.lines t = before ++ text :: after ∧ n = before.length + 1 ∧
        Offends P before text ∧ InOrder P before := fun _ _ => told_empty.addLines_eq_error
  refine
    { ok_iff := ?_, rules := ?_, header_iff := ?_, crosses_iff := ?_, fault := herror }
  · constructor
    · rintro ⟨a, ha⟩
      exact (hok a ha).inOrder
    · intro hlines
      cases hparse : parse P t with
      | ok a => exact ⟨a, rfl⟩
      | error fault =>
        obtain ⟨before, after, hsplit, -, hoffends, -⟩ := herror fault.line fault.text hparse
        exact absurd hoffends (hlines before fault.text after hsplit)
  · intro a ha rules
    constructor
    · intro hrules
      exact (hok a ha).rules.unique hrules
    · rintro rfl
      exact (hok a ha).rules
  · intro a ha kind flag cross
    exact (hok a ha).header_iff
  · intro a ha kind flag
    rw [← (hok a ha).header_iff]
    unfold crosses
    cases a.header? kind flag with
    | none => simp
    | some c => simp

/-- A header, a rule, and a rule whose condition lacks a bracket. -/
def unclosed : Text := "SFX N Y 2\nSFX N 0 n e\nSFX N 0 en (e"

/-- The rule that lacks a bracket is blamed, and what stands before it is in order. -/
theorem readByLines_unclosed :
    parse Pattern unclosed = .error ⟨3, "SFX N 0 en (e"⟩ ∧
      Offends Pattern ["SFX N Y 2", "SFX N 0 n e"] "SFX N 0 en (e" ∧
      InOrder Pattern ["SFX N Y 2", "SFX N 0 n e"] := by
  have hparse : parse Pattern unclosed = .error ⟨3, "SFX N 0 en (e"⟩ := by decide +kernel
  obtain ⟨before, after, hlines, hnumber, hoffends, horder⟩ :=
    (readByLines (P := Pattern) unclosed).fault 3 _ hparse
  have htake : (Text.lines unclosed).take 2 = before := by
    rw [hlines]
    exact List.take_left' (Nat.succ.inj hnumber).symm
  have hbefore : before = (["SFX N Y 2", "SFX N 0 n e"] : List Text) := by
    rw [← htake]
    decide +kernel
  rw [hbefore] at hoffends horder
  exact ⟨hparse, hoffends, horder⟩

end AffixFile

end Kompositum

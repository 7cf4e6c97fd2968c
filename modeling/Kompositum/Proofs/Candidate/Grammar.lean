import Kompositum.Proofs.Candidate.Format
import Kompositum.Proofs.Outcome

/-!
# The grammar of candidates

A text is a candidate if it is empty or fragments with plus signs between them. A fragment is atoms
and, in parentheses, more atoms; an atom is a character that is not reserved, or any character
after a backslash. The parser reads a text character by character and keeps what it has read of a
fragment, which is a beginning of a fragment of the grammar.

* `Atom`, `Atoms`, `FragmentText`, `FragmentsText`, `CandidateText`: the grammar, and what a
  text says.
* `FragmentsText.parseFragments_eq`: what the grammar allows is read.
* `Begun`, `Begun.fragmentsText`: what is read is allowed by the grammar.
* `Candidate.readAsWritten`: a text is read exactly if it is written by the grammar, and written
  back as it is exactly if every escape in it is needed.
-/

namespace Kompositum

namespace Grammar

/-- **An atom**: a character without a meaning of its own, or a backslash and any character. -/
inductive Atom : Text → Char → Prop
  | plain {c : Char} (h : isReserved c = false) : Atom [c] c
  | escape (c : Char) : Atom ['\\', c] c

/-- Atoms in a row, and the characters that they stand for. -/
inductive Atoms : Text → Text → Prop
  | nil : Atoms [] []
  | cons {s t w : Text} {c : Char} (hs : Atom s c) (ht : Atoms t w) : Atoms (s ++ t) (c :: w)

/-- **The text of a fragment**: one atom or more and, in parentheses, one atom or more. -/
inductive FragmentText : Text → Fragment → Prop
  | plain {s w : Text} (hs : Atoms s w) (hw : w ≠ []) : FragmentText s (.plain w)
  | linked {s t w m : Text} (hs : Atoms s w) (hw : w ≠ []) (ht : Atoms t m) (hm : m ≠ []) :
      FragmentText (s ++ '(' :: (t ++ [')'])) (.linked w m)

/-- **The text of fragments**, one or more, with plus signs between them. -/
inductive FragmentsText : Text → List Fragment → Prop
  | one {s : Text} {f : Fragment} (hs : FragmentText s f) : FragmentsText s [f]
  | more {s t : Text} {f : Fragment} {fs : List Fragment} (hs : FragmentText s f)
      (ht : FragmentsText t fs) : FragmentsText (s ++ '+' :: t) (f :: fs)

/-- **The text of a candidate**: the text of its fragments; the empty text is the empty unsplit
candidate. -/
inductive CandidateText : Text → Candidate → Prop
  | empty : CandidateText [] (.ofWord [])
  | fragments {t : Text} {fs : List Fragment} (h : FragmentsText t fs) :
      CandidateText t (.ofFragments fs)

/-- The characters that stand after a backslash, read from the left. -/
def escapes : Text → List Char
  | [] => []
  | '\\' :: c :: t => c :: escapes t
  | _ :: t => escapes t

/-- **A text is tidy** if every escape in it is needed. -/
def Tidy (t : Text) : Prop := ∀ e ∈ escapes t, isReserved e = true

variable {s t u w m : Text} {c : Char} {f : OpenFragment} {g : Fragment} {fs : List Fragment}

/-! ## What is written is read -/

theorem parseFragments_plain (hc : isReserved c = false) (f : OpenFragment) (t : Text) :
    parseFragments f (c :: t) = f.push c >>= fun f => parseFragments f t := by
  rw [← Bool.not_eq_true, isReserved_iff] at hc
  simp only [not_or] at hc
  obtain ⟨hbackslash, hplus, hopen, hclose⟩ := hc
  rw [parseFragments]
  · exact hbackslash
  · exact hplus
  · exact hopen
  · exact hclose

theorem Atom.parseFragments_eq (h : Atom s c) (hf : f.IsOpen) (t : Text) :
    parseFragments f (s ++ t) = parseFragments (f.extend [c]) t := by
  have hpush := OpenFragment.push_of_isOpen hf c
  cases h with
  | plain hc =>
    rw [List.singleton_append, parseFragments_plain hc, hpush, ok_bind]
  | escape =>
    show (f.push c >>= fun f => parseFragments f t) = _
    rw [hpush, ok_bind]

/-- Atoms are read as the characters that they stand for. -/
theorem Atoms.parseFragments_eq (h : Atoms s w) (hf : f.IsOpen) (t : Text) :
    parseFragments f (s ++ t) = parseFragments (f.extend w) t := by
  induction h generalizing f with
  | nil => rw [f.extend_nil, List.nil_append]
  | cons hs _ ih =>
    rw [List.append_assoc, hs.parseFragments_eq hf, ih (OpenFragment.extend_isOpen hf _),
      OpenFragment.extend_extend, List.singleton_append]

theorem FragmentText.made (h : FragmentText s g) : g.Made := by
  cases h with
  | plain _ _ => exact .plain _
  | linked _ _ _ _ => exact .linked _ _

theorem FragmentText.word_ne_nil (h : FragmentText s g) : g.word ≠ [] := by
  cases h with
  | plain _ hw => exact hw
  | linked _ hw _ _ => exact hw

/-- A fragment is read to its end. -/
theorem FragmentText.parseFragments_eq (h : FragmentText s g) (t : Text) :
    parseFragments (.word []) (s ++ t) = parseFragments g.whole t := by
  cases h with
  | plain hs hw => exact hs.parseFragments_eq (f := .word []) trivial t
  | @linked s u w m hs hw hu hm =>
    obtain ⟨c, w, rfl⟩ := List.exists_cons_of_ne_nil hw
    obtain ⟨d, m, rfl⟩ := List.exists_cons_of_ne_nil hm
    have hword := hs.parseFragments_eq (f := .word []) trivial ('(' :: (u ++ ')' :: t))
    have hmorpheme := hu.parseFragments_eq (f := .morpheme (c :: w) []) trivial (')' :: t)
    simp only [List.append_assoc, List.cons_append, List.nil_append]
    rw [hword]
    exact hmorpheme

/-- **What the grammar allows is read.** -/
theorem FragmentsText.parseFragments_eq (h : FragmentsText t fs) :
    parseFragments (.word []) t = .ok fs := by
  induction h with
  | @one s g hs =>
    have hread := hs.parseFragments_eq []
    rw [List.append_nil] at hread
    rw [hread]
    show (do return [← g.whole.finish]) = _
    rw [Fragment.finish_whole hs.word_ne_nil hs.made.morpheme_ne]
    rfl
  | @more s t g fs hs ht ih =>
    rw [hs.parseFragments_eq]
    show (do
      let first ← g.whole.finish
      return first :: (← parseFragments (.word []) t)) = _
    rw [Fragment.finish_whole hs.word_ne_nil hs.made.morpheme_ne, ih]
    rfl

/-! ## What is read is written -/

theorem Atoms.snoc (hs : Atoms s w) (ht : Atom t c) : Atoms (s ++ t) (w ++ [c]) := by
  induction hs with
  | nil =>
    have h := Atoms.cons ht .nil
    rwa [List.append_nil] at h
  | cons hs' _ ih =>
    rw [List.append_assoc]
    exact .cons hs' ih

/-- **The beginning of a fragment**, and what has been read of it. -/
inductive Begun : Text → OpenFragment → Prop
  | word {s w : Text} (hs : Atoms s w) : Begun s (.word w)
  | morpheme {s t w m : Text} (hs : Atoms s w) (hw : w ≠ []) (ht : Atoms t m) :
      Begun (s ++ '(' :: t) (.morpheme w m)
  | closed {s t w m : Text} (hs : Atoms s w) (hw : w ≠ []) (ht : Atoms t m) (hm : m ≠ []) :
      Begun (s ++ '(' :: (t ++ [')'])) (.closed w m)

namespace Begun

variable {f' : OpenFragment}

theorem push (h : Begun s f) (ha : Atom t c) (hpush : f.push c = .ok f') : Begun (s ++ t) f' := by
  cases h with
  | word hs =>
    obtain rfl := Except.ok.inj hpush
    exact .word (hs.snoc ha)
  | morpheme hs hw ht =>
    obtain rfl := Except.ok.inj hpush
    rw [List.append_assoc, List.cons_append]
    exact .morpheme hs hw (ht.snoc ha)
  | closed => cases hpush

theorem openMorpheme (h : Begun s f) (hopen : f.openMorpheme = .ok f') :
    Begun (s ++ ['(']) f' := by
  cases h with
  | @word _ w hs =>
    cases w with
    | nil => cases hopen
    | cons c w =>
      obtain rfl := Except.ok.inj hopen
      exact .morpheme hs (List.cons_ne_nil c w) .nil
  | morpheme => cases hopen
  | closed => cases hopen

theorem closeMorpheme (h : Begun s f) (hclose : f.closeMorpheme = .ok f') :
    Begun (s ++ [')']) f' := by
  cases h with
  | word => cases hclose
  | @morpheme _ _ w m hs hw ht =>
    cases m with
    | nil => cases hclose
    | cons c m =>
      obtain rfl := Except.ok.inj hclose
      rw [List.append_assoc, List.cons_append]
      exact .closed hs hw ht (List.cons_ne_nil c m)
  | closed => cases hclose

theorem finish (h : Begun s f) (hfinish : f.finish = .ok g) : FragmentText s g := by
  cases h with
  | @word _ w hs =>
    cases w with
    | nil => cases hfinish
    | cons c w =>
      obtain rfl := Except.ok.inj hfinish
      exact .plain hs (List.cons_ne_nil c w)
  | morpheme => cases hfinish
  | closed hs hw ht hm =>
    obtain rfl := Except.ok.inj hfinish
    exact .linked hs hw ht hm

end Begun

/-- **What is read is allowed by the grammar**: the beginning of a fragment and the text that is
read after it make up fragments. -/
theorem Begun.fragmentsText (h : Begun s f) (hparse : parseFragments f t = .ok fs) :
    FragmentsText (s ++ t) fs := by
  induction f, t using parseFragments.induct generalizing s fs with
  | case1 f =>
    obtain ⟨g, hfinish, hfs⟩ := bind_eq_ok.1 hparse
    obtain rfl := Except.ok.inj hfs
    rw [List.append_nil]
    exact .one (h.finish hfinish)
  | case2 f => cases hparse
  | case3 f c t ih =>
    obtain ⟨f', hpush, hrest⟩ := bind_eq_ok.1 hparse
    have hfs := ih f' (h.push (.escape c) hpush) hrest
    rwa [List.append_assoc] at hfs
  | case4 f t ih =>
    obtain ⟨g, hfinish, hparse⟩ := bind_eq_ok.1 hparse
    obtain ⟨gs, hrest, hfs⟩ := bind_eq_ok.1 hparse
    obtain rfl := Except.ok.inj hfs
    exact .more (h.finish hfinish) (ih (.word .nil) hrest)
  | case5 f t ih =>
    obtain ⟨f', hopen, hrest⟩ := bind_eq_ok.1 hparse
    have hfs := ih f' (h.openMorpheme hopen) hrest
    rwa [List.append_assoc] at hfs
  | case6 f t ih =>
    obtain ⟨f', hclose, hrest⟩ := bind_eq_ok.1 hparse
    have hfs := ih f' (h.closeMorpheme hclose) hrest
    rwa [List.append_assoc] at hfs
  | case7 f c t hbackslash hplus hopen hclose ih =>
    have hplain : isReserved c = false := by
      rw [← Bool.not_eq_true, isReserved_iff]
      simp only [not_or]
      exact ⟨hbackslash, hplus, hopen, hclose⟩
    rw [parseFragments_plain hplain] at hparse
    obtain ⟨f', hpush, hrest⟩ := bind_eq_ok.1 hparse
    have hfs := ih f' (h.push (.plain hplain) hpush) hrest
    rwa [List.append_assoc] at hfs

theorem FragmentText.ne_nil (h : FragmentText s g) : s ≠ [] := by
  cases h with
  | plain hs hw =>
    intro hnil
    cases hs with
    | nil => exact hw rfl
    | cons ha ht => cases ha <;> cases hnil
  | linked => simp

theorem FragmentsText.ne_nil (h : FragmentsText t fs) : t ≠ [] ∧ fs ≠ [] := by
  cases h with
  | one hs => exact ⟨hs.ne_nil, List.cons_ne_nil _ _⟩
  | more hs ht => exact ⟨by simp, List.cons_ne_nil _ _⟩

/-- **The parser accepts what the grammar allows**, and reads what it says. -/
theorem parse_eq_ok_iff {c : Candidate} : Candidate.parse t = .ok c ↔ CandidateText t c := by
  unfold Candidate.parse
  constructor
  · intro h
    by_cases ht : t = []
    · subst ht
      obtain rfl := Except.ok.inj h
      exact .empty
    · rw [if_neg (by simpa using ht)] at h
      cases hparse : parseFragments (.word []) t with
      | error fault =>
        rw [hparse] at h
        cases h
      | ok fs =>
        rw [hparse] at h
        obtain rfl := Except.ok.inj h
        exact .fragments ((Begun.word .nil).fragmentsText hparse)
  · intro h
    cases h with
    | empty => rfl
    | fragments h =>
      rw [if_neg (by simpa using h.ne_nil.1), h.parseFragments_eq]
      rfl

/-! ## What is written back -/

theorem escapes_cons (hc : c ≠ '\\') (t : Text) : escapes (c :: t) = escapes t := by
  rw [escapes]
  intro d u h
  simp [hc] at h

theorem Atom.escapes_append (h : Atom s c) (t : Text) :
    escapes (s ++ t) = escapes s ++ escapes t := by
  cases h with
  | plain hc =>
    have hne : c ≠ '\\' := by
      rintro rfl
      cases hc
    simp only [List.singleton_append, escapes_cons hne, escapes, List.nil_append]
  | escape => rfl

theorem Atoms.escapes_append (h : Atoms s w) (t : Text) :
    escapes (s ++ t) = escapes s ++ escapes t := by
  induction h with
  | nil => rfl
  | cons hs _ ih => rw [List.append_assoc, hs.escapes_append, ih, hs.escapes_append,
      List.append_assoc]

theorem FragmentText.escapes_append (h : FragmentText s g) (t : Text) :
    escapes (s ++ t) = escapes s ++ escapes t := by
  cases h with
  | plain hs _ => exact hs.escapes_append t
  | @linked s u w m hs _ hu _ =>
    have hopen : ∀ v, escapes ('(' :: v) = escapes v := escapes_cons (by decide)
    have hclose : ∀ v, escapes (')' :: v) = escapes v := escapes_cons (by decide)
    simp only [List.append_assoc, List.cons_append, List.nil_append, hs.escapes_append, hopen,
      hu.escapes_append, hclose]
    rfl

theorem tidy_append (h : escapes (s ++ t) = escapes s ++ escapes t) :
    Tidy (s ++ t) ↔ Tidy s ∧ Tidy t := by
  unfold Tidy
  rw [h]
  exact List.forall_mem_append

theorem tidy_cons (hc : c ≠ '\\') : Tidy (c :: t) ↔ Tidy t := by
  unfold Tidy
  rw [escapes_cons hc]

/-- An atom is written back as it is if it is no escape or one that is needed. -/
theorem Atom.escaped_append_eq_iff (h : Atom s c) (x y : Text) :
    escaped [c] ++ x = s ++ y ↔ Tidy s ∧ x = y := by
  cases h with
  | plain hc =>
    have hescaped : escaped [c] = [c] := by simp [escaped, hc]
    simp [hescaped, Tidy, escapes]
  | escape =>
    have htidy : Tidy ['\\', c] ↔ isReserved c = true := by simp [Tidy, escapes]
    rw [htidy]
    by_cases hc : isReserved c = true
    · simp [escaped, hc]
    · have hne : c ≠ '\\' := by
        rintro rfl
        exact hc rfl
      simp [escaped, hc, hne]

theorem Atoms.escaped_append_eq_iff (h : Atoms s w) (x y : Text) :
    escaped w ++ x = s ++ y ↔ Tidy s ∧ x = y := by
  induction h with
  | nil => simp [escaped, Tidy, escapes]
  | @cons s t w c hs ht ih =>
    have hsplit : escaped (c :: w) = escaped [c] ++ escaped w := by simp [escaped]
    rw [hsplit, List.append_assoc, List.append_assoc, hs.escaped_append_eq_iff, ih,
      tidy_append (hs.escapes_append t), and_assoc]

theorem FragmentText.render_append_eq_iff (h : FragmentText s g) (x y : Text) :
    g.render ++ x = s ++ y ↔ Tidy s ∧ x = y := by
  rw [Fragment.render_append]
  cases h with
  | plain hs hw => exact hs.escaped_append_eq_iff x y
  | @linked s u w m hs hw hu hm =>
    obtain ⟨d, m, rfl⟩ := List.exists_cons_of_ne_nil hm
    have hopen : '(' ≠ '\\' := by decide
    have hclose : Tidy [')'] := by simp [Tidy, escapes]
    have htidy : Tidy (s ++ '(' :: (u ++ [')'])) ↔ Tidy s ∧ Tidy u := by
      rw [tidy_append (hs.escapes_append _), tidy_cons hopen, tidy_append (hu.escapes_append _)]
      simp only [hclose, and_true]
    show escaped w ++ '(' :: (escaped (d :: m) ++ ')' :: x) = _ ↔ _
    rw [htidy, List.append_assoc, hs.escaped_append_eq_iff, List.cons_append, List.cons.injEq,
      List.append_assoc, hu.escaped_append_eq_iff, List.singleton_append, List.cons.injEq]
    simp only [true_and, and_assoc]

/-- Fragments are written back as they are if their text is tidy. -/
theorem FragmentsText.join_eq_iff (h : FragmentsText t fs) :
    Text.join ['+'] (fs.map Fragment.render) = t ↔ Tidy t := by
  induction h with
  | @one s g hs =>
    have hiff := hs.render_append_eq_iff [] []
    simpa [Text.join] using hiff
  | @more s t g fs hs ht ih =>
    have hplus : '+' ≠ '\\' := by decide
    obtain ⟨f, fs, rfl⟩ := List.exists_cons_of_ne_nil ht.ne_nil.2
    rw [join_render_cons, joinedAfter, hs.render_append_eq_iff, List.cons.injEq, ih,
      tidy_append (hs.escapes_append _), tidy_cons hplus]
    simp only [true_and]

theorem FragmentsText.made (h : FragmentsText t fs) : ∀ f ∈ fs, f.Made ∧ f.word ≠ [] := by
  induction h with
  | one hs =>
    intro f hf
    rw [List.mem_singleton.1 hf]
    exact ⟨hs.made, hs.word_ne_nil⟩
  | more hs ht ih =>
    intro f hf
    rcases List.mem_cons.1 hf with rfl | hf
    · exact ⟨hs.made, hs.word_ne_nil⟩
    · exact ih f hf

namespace CandidateText

variable {c : Candidate}

/-- A candidate is written back as it is if its text is tidy. -/
theorem render_eq_iff (h : CandidateText t c) : c.render = t ↔ Tidy t := by
  cases h with
  | empty => exact iff_of_true rfl nofun
  | @fragments _ fs h =>
    rw [Candidate.ofFragments_of_ne_nil h.ne_nil.2]
    exact h.join_eq_iff

/-- What a candidate is written back to is read as the same candidate. -/
theorem parse_render (h : CandidateText t c) : Candidate.parse c.render = .ok c := by
  cases h with
  | empty => rfl
  | @fragments _ fs h =>
    have hmade : (Candidate.ofFragments fs).Made := .fragments fs fun f hf => (h.made f hf).1
    rw [Candidate.parse_render_eq_ok_iff hmade, Candidate.ofFragments_of_ne_nil h.ne_nil.2]
    left
    intro f hf
    exact (h.made f hf).2

end CandidateText

end Grammar

open Grammar

theorem Candidate.read_eq_ok_iff {t : Text} {c : Candidate} :
    read t = .ok c ↔ CandidateText t c := by
  rw [← parse_eq_ok_iff]
  unfold read
  cases parse t with
  | error fault => exact iff_of_false nofun nofun
  | ok d => exact ⟨fun h => by cases h; rfl, fun h => by cases h; rfl⟩

/-- **How a text is read** and written back. -/
structure Candidate.ReadAsWritten (t : Text) : Prop where
  /-- What is read is what the grammar says. -/
  ok_iff : ∀ c, read t = .ok c ↔ CandidateText t c
  /-- The grammar says one thing only. -/
  unique : ∀ c d, CandidateText t c → CandidateText t d → c = d
  /-- Every other text is refused. -/
  refused : (∀ c, ¬ CandidateText t c) → ∃ fault, read t = .error (.format t fault)
  /-- A text is written back as it is if every escape in it is needed. -/
  render_eq_iff : ∀ c, read t = .ok c →
    (c.render = t ↔ ∀ e ∈ escapes t, e = '\\' ∨ e = '+' ∨ e = '(' ∨ e = ')')
  /-- What is written back is read as the same. -/
  read_render : ∀ c, read t = .ok c → read c.render = .ok c

/-- **Every text is read as the grammar has it**, or refused if the grammar does not have it.
Escapes that are not needed are lost when the candidate is written back, and nothing else. -/
theorem Candidate.readAsWritten (t : Text) : ReadAsWritten t where
  ok_iff := fun _ => read_eq_ok_iff
  unique := by
    intro c d hc hd
    have hcd := (read_eq_ok_iff.2 hc).symm.trans (read_eq_ok_iff.2 hd)
    exact Except.ok.inj hcd
  refused := by
    intro h
    cases hparse : parse t with
    | ok c => exact absurd (parse_eq_ok_iff.1 hparse) (h c)
    | error fault =>
      refine ⟨fault, ?_⟩
      unfold read
      rw [hparse]
      rfl
  render_eq_iff := by
    intro c hread
    rw [(read_eq_ok_iff.1 hread).render_eq_iff]
    unfold Tidy
    simp only [isReserved_iff]
  read_render := by
    intro c hread
    have hparse := (read_eq_ok_iff.1 hread).parse_render
    rw [read_eq_ok_iff, ← parse_eq_ok_iff]
    exact hparse

-- an escape that is not needed
example : (Candidate.parse "a\\b+c\\+").toOption =
      some (.ofFragments [.plain "ab", .plain "c+"]) ∧
    (Candidate.ofFragments [.plain "ab", .plain "c+"]).render = "ab+c\\+".toList := by
  decide

end Kompositum

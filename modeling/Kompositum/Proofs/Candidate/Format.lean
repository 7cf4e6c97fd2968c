import Kompositum.Error

/-!
# Reading candidates back from their text

Escaping keeps the signs between fragments apart from the characters of words and morphemes, so
the text of a candidate shows its fragments.

* `render_injective`: different candidates have different texts.
* `parseFragments_join`: what the parser makes of fragments written with plus signs between them.
  It finds every fragment, or the first one without a word.
* `read_render_iff`: a candidate is read back from its text unless some fragment has no word, the
  empty unsplit candidate apart.
-/

namespace Kompositum

/-- Where escaped text ends: at the end of the text or at a sign that is not escaped. -/
def EndsEscaped (t : Text) : Prop := ∀ c ∈ t.head?, c = '+' ∨ c = '(' ∨ c = ')'

/-- Where a fragment ends: at the end of the text or at a plus sign. -/
def EndsFragment (t : Text) : Prop := ∀ c ∈ t.head?, c = '+'

theorem EndsFragment.endsEscaped {t : Text} (h : EndsFragment t) : EndsEscaped t :=
  fun c hc => .inl (h c hc)

theorem escaped_cons (c : Char) (t : Text) :
    escaped (c :: t) = (if isReserved c then ['\\', c] else [c]) ++ escaped t := rfl

theorem isReserved_iff {c : Char} :
    isReserved c = true ↔ c = '\\' ∨ c = '+' ∨ c = '(' ∨ c = ')' := by
  simp [isReserved, or_assoc]

/-- Escaped text that goes on does not stand where escaped text ends. -/
theorem not_endsEscaped_escaped_cons (c : Char) (t rest : Text) :
    ¬ EndsEscaped (escaped (c :: t) ++ rest) := by
  intro h
  rw [escaped_cons] at h
  by_cases hc : isReserved c = true
  · have := h '\\' (by simp [hc])
    simp at this
  · have := h c (by simp [hc])
    exact hc (isReserved_iff.2 (.inr this))

/-- **Escaped text shows where it ends**: its beginning and what follows are determined. -/
theorem escaped_append_inj {x x' : Text} (hx : EndsEscaped x) (hx' : EndsEscaped x') :
    ∀ {w w' : Text}, escaped w ++ x = escaped w' ++ x' → w = w' ∧ x = x' := by
  intro w
  induction w with
  | nil =>
    intro w' h
    cases w' with
    | nil => exact ⟨rfl, h⟩
    | cons d w' => exact absurd (h ▸ hx) (not_endsEscaped_escaped_cons d w' x')
  | cons c w ih =>
    intro w' h
    cases w' with
    | nil => exact absurd (h ▸ hx') (not_endsEscaped_escaped_cons c w x)
    | cons d w' =>
      simp only [escaped_cons, List.append_assoc] at h
      -- a backslash is reserved itself, so it never stands for a plain character
      have hcd : c = d ∧ escaped w ++ x = escaped w' ++ x' := by
        by_cases hc : isReserved c = true <;> by_cases hd : isReserved d = true <;>
          simp only [hc, hd, if_true, if_false, Bool.false_eq_true, List.cons_append,
            List.nil_append, List.cons.injEq] at h
        · exact h.2
        · exact absurd (h.1 ▸ isReserved_iff.2 (.inl rfl)) hd
        · exact absurd (h.1 ▸ isReserved_iff.2 (.inl rfl)) hc
        · exact h
      obtain ⟨hw, hxx⟩ := ih hcd.2
      exact ⟨by rw [hcd.1, hw], hxx⟩

namespace Fragment

/-- What a fragment is followed by after its word. -/
theorem render_append (f : Fragment) (x : Text) :
    f.render ++ x = escaped f.word ++
      match f.morpheme with
      | some m => '(' :: (escaped m ++ ')' :: x)
      | none => x := by
  unfold render
  cases f.morpheme <;> simp

/-- **A written fragment shows where it ends.** -/
theorem render_append_inj {f f' : Fragment} {x x' : Text} (hx : EndsFragment x)
    (hx' : EndsFragment x') (h : f.render ++ x = f'.render ++ x') : f = f' ∧ x = x' := by
  obtain ⟨w, m⟩ := f
  obtain ⟨w', m'⟩ := f'
  rw [render_append, render_append] at h
  have hopen : ∀ t : Text, EndsEscaped ('(' :: t) := fun t c hc => by simp at hc; simp [← hc]
  have hclose : ∀ t : Text, EndsEscaped (')' :: t) := fun t c hc => by simp at hc; simp [← hc]
  have hplus : ∀ {y t : Text}, EndsFragment y → y ≠ '(' :: t := by
    intro y t hy hyt
    have := hy '(' (by simp [hyt])
    simp at this
  cases m with
  | none =>
    cases m' with
    | none =>
      obtain ⟨rfl, rfl⟩ := escaped_append_inj hx.endsEscaped hx'.endsEscaped h
      exact ⟨rfl, rfl⟩
    | some m' => exact absurd (escaped_append_inj hx.endsEscaped (hopen _) h).2 (hplus hx)
  | some m =>
    cases m' with
    | none => exact absurd (escaped_append_inj (hopen _) hx'.endsEscaped h).2.symm (hplus hx')
    | some m' =>
      obtain ⟨rfl, ht⟩ := escaped_append_inj (hopen _) (hopen _) h
      obtain ⟨rfl, hxx⟩ := escaped_append_inj (hclose _) (hclose _) (List.cons.inj ht).2
      exact ⟨rfl, (List.cons.inj hxx).2⟩

end Fragment

/-- What follows a fragment in a row of fragments. -/
def joinedAfter : List Fragment → Text
  | [] => []
  | f :: fs => '+' :: Text.join ['+'] ((f :: fs).map Fragment.render)

theorem join_render_cons (f : Fragment) (fs : List Fragment) :
    Text.join ['+'] ((f :: fs).map Fragment.render) = f.render ++ joinedAfter fs := by
  cases fs <;> simp [Text.join, joinedAfter]

theorem joinedAfter_cons (f : Fragment) (fs : List Fragment) :
    joinedAfter (f :: fs) = '+' :: (f.render ++ joinedAfter fs) := by
  rw [joinedAfter, join_render_cons]

theorem endsFragment_joinedAfter (fs : List Fragment) : EndsFragment (joinedAfter fs) := by
  intro c hc
  cases fs with
  | nil => simp [joinedAfter] at hc
  | cons f fs => simpa [joinedAfter, eq_comm] using hc

theorem joinedAfter_inj : ∀ {fs gs : List Fragment}, joinedAfter fs = joinedAfter gs → fs = gs := by
  intro fs
  induction fs with
  | nil =>
    intro gs h
    cases gs with
    | nil => rfl
    | cons g gs => simp [joinedAfter] at h
  | cons f fs ih =>
    intro gs h
    cases gs with
    | nil => simp [joinedAfter] at h
    | cons g gs =>
      rw [joinedAfter_cons, joinedAfter_cons] at h
      obtain ⟨rfl, hrest⟩ := Fragment.render_append_inj (endsFragment_joinedAfter fs)
        (endsFragment_joinedAfter gs) (List.cons.inj h).2
      rw [ih hrest]

/-- **Different candidates have different texts.** -/
theorem Candidate.render_injective {c d : Candidate} (h : c.render = d.render) : c = d := by
  obtain ⟨f, fs, hc⟩ := List.exists_cons_of_ne_nil c.ne_nil
  obtain ⟨g, gs, hd⟩ := List.exists_cons_of_ne_nil d.ne_nil
  unfold render at h
  rw [hc, hd, join_render_cons, join_render_cons] at h
  obtain ⟨hfg, hrest⟩ := Fragment.render_append_inj (endsFragment_joinedAfter fs)
    (endsFragment_joinedAfter gs) h
  ext1
  rw [hc, hd, hfg, joinedAfter_inj hrest]

namespace OpenFragment

/-- A fragment with more of the text that it is in the middle of. -/
def extend (t : Text) : OpenFragment → OpenFragment
  | word w => word (w ++ t)
  | morpheme w m => morpheme w (m ++ t)
  | closed w m => closed w m

/-- Whether characters can be added. -/
def IsOpen : OpenFragment → Prop
  | closed _ _ => False
  | _ => True

theorem push_of_isOpen {f : OpenFragment} (hf : f.IsOpen) (c : Char) :
    f.push c = .ok (f.extend [c]) := by
  cases f with
  | word w => rfl
  | morpheme w m => rfl
  | closed w m => exact absurd hf not_false

theorem extend_isOpen {f : OpenFragment} (hf : f.IsOpen) (t : Text) : (f.extend t).IsOpen := by
  cases f <;> simp_all [extend, IsOpen]

theorem extend_extend (f : OpenFragment) (s t : Text) :
    (f.extend s).extend t = f.extend (s ++ t) := by
  cases f <;> simp [extend]

theorem extend_nil (f : OpenFragment) : f.extend [] = f := by
  cases f <;> simp [extend]

end OpenFragment

theorem parseFragments_push {f : OpenFragment} (hf : f.IsOpen) (c : Char) (t : Text) :
    parseFragments f (escaped [c] ++ t) = parseFragments (f.extend [c]) t := by
  by_cases hc : isReserved c = true
  · simp [escaped, hc, parseFragments, OpenFragment.push_of_isOpen hf, bind, Except.bind]
  · have hs : escaped [c] = [c] := by simp [escaped, hc]
    simp only [isReserved_iff, not_or] at hc
    rw [hs, List.cons_append, List.nil_append, parseFragments,
      OpenFragment.push_of_isOpen hf]
    · rfl
    all_goals simp_all

/-- **Escaped characters are read as they are.** -/
theorem parseFragments_escaped {f : OpenFragment} (hf : f.IsOpen) (w t : Text) :
    parseFragments f (escaped w ++ t) = parseFragments (f.extend w) t := by
  induction w generalizing f with
  | nil => rw [f.extend_nil]; rfl
  | cons c w ih =>
    have hsplit : escaped (c :: w) = escaped [c] ++ escaped w := by simp [escaped]
    rw [hsplit, List.append_assoc, parseFragments_push hf, ih (OpenFragment.extend_isOpen hf _),
      OpenFragment.extend_extend, List.singleton_append]

namespace Fragment

/-- All of a fragment, read. -/
def whole (f : Fragment) : OpenFragment :=
  match f.morpheme with
  | none => .word f.word
  | some m => .closed f.word m

/-- What is wrong with the text of a fragment without a word. -/
def wordFault (f : Fragment) : FormatFault :=
  match f.morpheme with
  | none => .emptyFragment
  | some _ => .morphemeWithoutWord

theorem finish_whole {f : Fragment} (hw : f.word ≠ []) (hm : f.morpheme ≠ some []) :
    f.whole.finish = .ok f := by
  obtain ⟨w, m⟩ := f
  obtain ⟨c, w, rfl⟩ := List.exists_cons_of_ne_nil hw
  cases m with
  | none => rfl
  | some m =>
    obtain ⟨d, m, rfl⟩ := List.exists_cons_of_ne_nil (fun h => hm (by rw [h]) : m ≠ [])
    rfl

/-- A written fragment is read to its end. -/
theorem parseFragments_render {f : Fragment} (hw : f.word ≠ []) (hm : f.morpheme ≠ some [])
    (t : Text) : parseFragments (.word []) (f.render ++ t) = parseFragments f.whole t := by
  obtain ⟨w, m⟩ := f
  obtain ⟨c, w, rfl⟩ := List.exists_cons_of_ne_nil hw
  rw [render_append, parseFragments_escaped (f := .word []) trivial]
  cases m with
  | none => rfl
  | some m =>
    obtain ⟨d, m, rfl⟩ := List.exists_cons_of_ne_nil (fun h => hm (by rw [h]) : m ≠ [])
    show parseFragments (.morpheme (c :: w) []) (escaped (d :: m) ++ ')' :: t) = _
    rw [parseFragments_escaped (f := .morpheme (c :: w) []) trivial]
    rfl

/-- A written fragment without a word is refused. -/
theorem parseFragments_render_of_word_nil {f : Fragment} (hw : f.word = []) {t : Text}
    (ht : EndsFragment t) : parseFragments (.word []) (f.render ++ t) = .error f.wordFault := by
  obtain ⟨w, m⟩ := f
  subst hw
  rw [render_append]
  cases m with
  | some m => rfl
  | none =>
    cases t with
    | nil => rfl
    | cons c t =>
      obtain rfl := ht c rfl
      rfl

end Fragment

/-- What is wrong with the text of some fragments: the first one without a word. -/
def firstFault? : List Fragment → Option FormatFault
  | [] => none
  | f :: fs => if f.word = [] then some f.wordFault else firstFault? fs

theorem firstFault?_eq_none_iff {fs : List Fragment} :
    firstFault? fs = none ↔ ∀ f ∈ fs, f.word ≠ [] := by
  induction fs with
  | nil => simp [firstFault?]
  | cons f fs ih =>
    by_cases hw : f.word = [] <;> simp [firstFault?, hw, ih]

/-- **The parser finds the fragments of a joined text**, or the first one without a word. -/
theorem parseFragments_join {fs : List Fragment} (hfs : fs ≠ [])
    (hm : ∀ f ∈ fs, f.morpheme ≠ some []) :
    parseFragments (.word []) (Text.join ['+'] (fs.map Fragment.render)) =
      match firstFault? fs with
      | some fault => .error fault
      | none => .ok fs := by
  induction fs with
  | nil => exact absurd rfl hfs
  | cons f fs ih =>
    rw [join_render_cons, firstFault?]
    by_cases hw : f.word = []
    · rw [Fragment.parseFragments_render_of_word_nil hw (endsFragment_joinedAfter fs), if_pos hw]
    · have hf := hm f List.mem_cons_self
      rw [Fragment.parseFragments_render hw hf, if_neg hw]
      cases fs with
      | nil =>
        show (do return [← f.whole.finish]) = _
        rw [Fragment.finish_whole hw hf]
        rfl
      | cons g fs =>
        have ih := ih (List.cons_ne_nil g fs) fun x hx => hm x (List.mem_cons_of_mem f hx)
        show (do
          let first ← f.whole.finish
          return first :: (← parseFragments (.word []) (Text.join ['+'] ((g :: fs).map _)))) = _
        rw [Fragment.finish_whole hw hf, ih]
        cases firstFault? (g :: fs) <;> rfl

/-- **How fragments are made**: plain, or linked by a morpheme, an empty one being none. -/
inductive Fragment.Made : Fragment → Prop
  | plain (w : Text) : Made (.plain w)
  | linked (w m : Text) : Made (.linked w m)

/-- **How candidates are made**: from a word, or from fragments that are made. -/
inductive Candidate.Made : Candidate → Prop
  | word (w : Text) : Made (.ofWord w)
  | fragments (fs : List Fragment) (h : ∀ f ∈ fs, f.Made) : Made (.ofFragments fs)

theorem Fragment.Made.morpheme_ne {f : Fragment} (h : f.Made) : f.morpheme ≠ some [] := by
  cases h with
  | plain w => exact nofun
  | linked w m => cases m <;> exact nofun

theorem Candidate.Made.fragments_made {c : Candidate} (h : c.Made) :
    ∀ f ∈ c.fragments, f.Made := by
  cases h with
  | word w =>
    intro f hf
    obtain rfl := List.mem_singleton.1 hf
    exact .plain w
  | fragments fs h =>
    by_cases hfs : fs = []
    · subst hfs
      intro f hf
      obtain rfl := List.mem_singleton.1 hf
      exact .plain []
    · rw [ofFragments_of_ne_nil hfs]
      exact h

/-- What the parser makes of the text of a candidate that is not the empty one. -/
theorem Candidate.parse_render {c : Candidate} (hc : c.Made) (hne : c ≠ ofWord []) :
    parse c.render =
      match firstFault? c.fragments with
      | some fault => .error fault
      | none => .ok c := by
  have hr : c.render ≠ [] := fun h => hne (render_injective h)
  unfold parse
  rw [if_neg (by simpa using hr), render,
    parseFragments_join c.ne_nil fun f hf => (hc.fragments_made f hf).morpheme_ne]
  cases firstFault? c.fragments with
  | some fault => rfl
  | none => simp [Except.map, ofFragments_of_ne_nil c.ne_nil]

/-- A candidate is read back exactly if every fragment has a word or it is the empty unsplit
candidate. -/
theorem Candidate.parse_render_eq_ok_iff {c : Candidate} (hc : c.Made) :
    parse c.render = .ok c ↔ (∀ f ∈ c.fragments, f.word ≠ []) ∨ c = ofWord [] := by
  by_cases hne : c = ofWord []
  · subst hne
    exact iff_of_true rfl (.inr rfl)
  · rw [parse_render hc hne, or_iff_left hne, ← firstFault?_eq_none_iff]
    cases firstFault? c.fragments <;> simp

/-- No text of a candidate is read as another one. -/
theorem Candidate.eq_of_parse_render {c d : Candidate} (hc : c.Made)
    (h : parse c.render = .ok d) : d = c := by
  by_cases hne : c = ofWord []
  · subst hne
    exact (Except.ok.inj h).symm
  · rw [parse_render hc hne] at h
    cases hfault : firstFault? c.fragments with
    | some fault =>
      rw [hfault] at h
      cases h
    | none =>
      rw [hfault] at h
      exact (Except.ok.inj h).symm

/-- **Reading a candidate back from its text.** It succeeds exactly if all fragments have words, the
empty unsplit candidate apart; otherwise the text is refused. No two candidates share a text. -/
theorem Candidate.read_render_iff {c : Candidate} (hc : c.Made) :
    (read c.render = .ok c ↔ (∀ f ∈ c.fragments, f.word ≠ []) ∨ c = ofWord []) ∧
      (¬ ((∀ f ∈ c.fragments, f.word ≠ []) ∨ c = ofWord []) →
        ∃ fault, read c.render = .error (.format c.render fault)) ∧
      ∀ d : Candidate, d.Made → d.render = c.render → d = c := by
  by_cases hne : c = ofWord []
  · subst hne
    exact ⟨⟨fun _ => .inr rfl, fun _ => rfl⟩, fun h => absurd (.inr rfl) h,
      fun d _ h => render_injective h⟩
  · have hread : read c.render =
        match firstFault? c.fragments with
        | some fault => .error (.format c.render fault)
        | none => .ok c := by
      unfold read
      rw [parse_render hc hne]
      cases firstFault? c.fragments <;> rfl
    rw [← firstFault?_eq_none_iff, hread]
    cases hfault : firstFault? c.fragments with
    | some fault => simp [hne]; exact fun d _ h => render_injective h
    | none => simp; exact fun d _ h => render_injective h

/-- Reserved characters are read back from words and morphemes alike. -/
theorem Candidate.read_render_reserved :
    (ofFragments [.linked ['c', '+'] ['+'], .plain ['(', 'x', ')']]).Made ∧
      read (ofFragments [.linked ['c', '+'] ['+'], .plain ['(', 'x', ')']]).render =
        .ok (ofFragments [.linked ['c', '+'] ['+'], .plain ['(', 'x', ')']]) := by
  have hmade : (ofFragments [.linked ['c', '+'] ['+'], .plain ['(', 'x', ')']]).Made := by
    refine .fragments _ fun f hf => ?_
    simp only [List.mem_cons, List.not_mem_nil, or_false] at hf
    rcases hf with rfl | rfl
    · exact .linked _ _
    · exact .plain _
  exact ⟨hmade, (read_render_iff hmade).1.2 (.inl (by decide))⟩

end Kompositum

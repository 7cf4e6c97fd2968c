import Kompositum.Proofs.Ngram.Segment.Parts
import Kompositum.Proofs.Record.Overflow

/-!
# Segment files with lengths beyond the end

Whatever bytes a file holds, reading a segment from it comes to an end. A text that is longer than
the rest of the file is refused before it is read, unless its length leads beyond 2⁶⁴: this is the
one fault that has no wording of its own, and it is found only in the texts of grams and tokens.

* `Segment.TextInTables`, `Segment.ComesToText`: the texts that reading a segment comes to.
* `Segment.decode_eq_unaddressable_iff`: when reading a segment leads beyond 2⁶⁴.
-/

namespace Kompositum

open Reader

namespace Segment

/-! ## Faults in the tables -/

theorem reading_eq_error_iff {α : Type} {x : Except ReadFault α} {fault : ReadFault} :
    reading x = .error (.read fault) ↔ x = .error fault := by
  cases x with
  | ok a => simp [reading]
  | error fault => simp [reading]

theorem readGrams_succ {k freq : Nat} {r r₁ r₂ : Reader} {gram : Text}
    (hgram : reading r.readText = .ok (gram, r₁)) (hfreq : reading r₁.readVarint = .ok (freq, r₂)) :
    readGrams (k + 1) r = readGrams k r₂ >>= fun p => .ok ((gram, freq) :: p.1, p.2) := by
  rw [readGrams, hgram, ok_bind]
  simp only
  rw [hfreq, ok_bind]
  rfl

theorem readPostings_succ {bound k : Nat} {known : Text.Table (List Nat)} {r r₁ r₂ : Reader}
    {token : Text} {ids : List Nat} (htoken : reading r.readText = .ok (token, r₁))
    (hids : reading r₁.readPostings = .ok (ids, r₂)) (hrange : ¬ids.any (bound ≤ ·)) :
    readPostings bound known (k + 1) r = readPostings bound (known.insert token ids) k r₂ := by
  rw [readPostings, htoken, ok_bind]
  simp only
  rw [hids, ok_bind]
  simp only
  rw [if_neg hrange]

/-- **Grams lead beyond 2⁶⁴** where, behind some of them, the text of the next one does. -/
theorem readGrams_eq_unaddressable_iff {count n : Nat} {r : Reader} :
    readGrams count r = .error (.read (.unaddressable n)) ↔
      ∃ k < count, ∃ grams r', readGrams k r = .ok (grams, r') ∧
        r'.readText = .error (.unaddressable n) := by
  induction count generalizing r with
  | zero =>
    constructor
    · intro h
      cases h
    · rintro ⟨k, hk, -⟩
      exact absurd hk (Nat.not_lt_zero k)
  | succ count ih =>
    constructor
    · intro h
      rw [readGrams] at h
      rcases bind_eq_error.1 h with h | ⟨⟨gram, r₁⟩, hgram, h⟩
      · exact ⟨0, Nat.succ_pos count, [], r, rfl, reading_eq_error_iff.1 h⟩
      rcases bind_eq_error.1 h with h | ⟨⟨freq, r₂⟩, hfreq, h⟩
      · exact absurd (reading_eq_error_iff.1 h) (addressed_readVarint r₁ n)
      rcases bind_eq_error.1 h with h | ⟨⟨rest, r₃⟩, -, h⟩
      · obtain ⟨k, hk, grams, r', hgrams, htext⟩ := ih.1 h
        refine ⟨k + 1, Nat.succ_lt_succ hk, (gram, freq) :: grams, r', ?_, htext⟩
        rw [readGrams_succ hgram hfreq, hgrams, ok_bind]
      · cases h
    · rintro ⟨k, hk, grams, r', hgrams, htext⟩
      cases k with
      | zero =>
        cases hgrams
        rw [readGrams, reading_eq_error_iff.2 htext, error_bind]
      | succ k =>
        rw [readGrams] at hgrams
        obtain ⟨⟨gram, r₁⟩, hgram, hgrams⟩ := bind_eq_ok.1 hgrams
        obtain ⟨⟨freq, r₂⟩, hfreq, hgrams⟩ := bind_eq_ok.1 hgrams
        obtain ⟨⟨rest, r₃⟩, hrest, hgrams⟩ := bind_eq_ok.1 hgrams
        cases hgrams
        have hlater := ih.2 ⟨k, Nat.lt_of_succ_lt_succ hk, rest, r', hrest, htext⟩
        rw [readGrams_succ hgram hfreq, hlater, error_bind]

/-- **Tokens lead beyond 2⁶⁴** where, behind some of them, the text of the next one does. -/
theorem readPostings_eq_unaddressable_iff {bound count n : Nat} {known : Text.Table (List Nat)}
    {r : Reader} :
    readPostings bound known count r = .error (.read (.unaddressable n)) ↔
      ∃ k < count, ∃ terms r', readPostings bound known k r = .ok (terms, r') ∧
        r'.readText = .error (.unaddressable n) := by
  induction count generalizing known r with
  | zero =>
    constructor
    · intro h
      cases h
    · rintro ⟨k, hk, -⟩
      exact absurd hk (Nat.not_lt_zero k)
  | succ count ih =>
    constructor
    · intro h
      rw [readPostings] at h
      rcases bind_eq_error.1 h with h | ⟨⟨token, r₁⟩, htoken, h⟩
      · exact ⟨0, Nat.succ_pos count, known, r, rfl, reading_eq_error_iff.1 h⟩
      rcases bind_eq_error.1 h with h | ⟨⟨ids, r₂⟩, hids, h⟩
      · exact absurd (reading_eq_error_iff.1 h) (addressed_readPostings r₁ n)
      simp only at h
      split at h
      · cases h
      · rename_i hrange
        obtain ⟨k, hk, terms, r', hterms, htext⟩ := ih.1 h
        refine ⟨k + 1, Nat.succ_lt_succ hk, terms, r', ?_, htext⟩
        rw [readPostings_succ htoken hids hrange, hterms]
    · rintro ⟨k, hk, terms, r', hterms, htext⟩
      cases k with
      | zero =>
        cases hterms
        rw [readPostings, reading_eq_error_iff.2 htext, error_bind]
      | succ k =>
        rw [readPostings] at hterms
        obtain ⟨⟨token, r₁⟩, htoken, hterms⟩ := bind_eq_ok.1 hterms
        obtain ⟨⟨ids, r₂⟩, hids, hterms⟩ := bind_eq_ok.1 hterms
        simp only at hterms
        split at hterms
        · cases hterms
        · rename_i hrange
          have hlater := ih.2 ⟨k, Nat.lt_of_succ_lt_succ hk, terms, r', hterms, htext⟩
          rw [readPostings_succ htoken hids hrange, hlater]

/-- **The texts of some tables**: those of the grams, as many as there are to be, and those of the
tokens behind them. -/
inductive TextInTables (start : Reader) : Reader → Prop
  | gram {r₁ r : Reader} {count k : Nat} {grams : List (Text × Nat)}
      (hcount : start.readVarint = .ok (count, r₁))
      (hgrams : readGrams k r₁ = .ok (grams, r)) (hk : k < count) : TextInTables start r
  | token {r₁ r₂ r₃ r : Reader} {count termCount k : Nat} {grams : List (Text × Nat)}
      {terms : Text.Table (List Nat)}
      (hcount : start.readVarint = .ok (count, r₁))
      (hgrams : readGrams count r₁ = .ok (grams, r₂))
      (htermCount : r₂.readVarint = .ok (termCount, r₃))
      (hterms : readPostings count [] k r₃ = .ok (terms, r)) (hk : k < termCount) :
    TextInTables start r

theorem TextInTables.placeIn {bytes : Bytes} {start r : Reader} (hstart : PlaceIn bytes start)
    (h : TextInTables start r) : PlaceIn bytes r := by
  cases h with
  | gram hcount hgrams hk =>
    have h₁ := streams_readVarint.placeIn hstart hcount
    exact (streams_readGrams _).placeIn h₁ hgrams
  | token hcount hgrams htermCount hterms hk =>
    have h₁ := streams_readVarint.placeIn hstart hcount
    have h₂ := (streams_readGrams _).placeIn h₁ hgrams
    have h₃ := streams_readVarint.placeIn h₂ htermCount
    exact (streams_readPostings _ _ _).placeIn h₃ hterms

/-- **Tables lead beyond 2⁶⁴** where one of their texts does. -/
theorem readTables_eq_unaddressable_iff {order n : Nat} {start : Reader} :
    readTables order start = .error (.read (.unaddressable n)) ↔
      ∃ r, TextInTables start r ∧ r.readText = .error (.unaddressable n) := by
  constructor
  · intro h
    unfold readTables at h
    rcases bind_eq_error.1 h with h | ⟨⟨count, r₁⟩, hcount, h⟩
    · exact absurd (reading_eq_error_iff.1 h) (addressed_readVarint start n)
    have hcount' := reading_eq_ok_iff.1 hcount
    rcases bind_eq_error.1 h with h | ⟨⟨grams, r₂⟩, hgrams, h⟩
    · obtain ⟨k, hk, grams, r, hread, htext⟩ := readGrams_eq_unaddressable_iff.1 h
      exact ⟨r, .gram hcount' hread hk, htext⟩
    rcases bind_eq_error.1 h with h | ⟨⟨termCount, r₃⟩, htermCount, h⟩
    · exact absurd (reading_eq_error_iff.1 h) (addressed_readVarint r₂ n)
    have htermCount' := reading_eq_ok_iff.1 htermCount
    rcases bind_eq_error.1 h with h | ⟨⟨terms, r₄⟩, -, h⟩
    · obtain ⟨k, hk, terms, r, hread, htext⟩ := readPostings_eq_unaddressable_iff.1 h
      exact ⟨r, .token hcount' hgrams htermCount' hread hk, htext⟩
    · cases h
  · rintro ⟨r, hin, htext⟩
    unfold readTables
    cases hin with
    | gram hcount hgrams hk =>
      have hfault := readGrams_eq_unaddressable_iff.2 ⟨_, hk, _, r, hgrams, htext⟩
      rw [reading_eq_ok_iff.2 hcount, ok_bind]
      simp only
      rw [hfault, error_bind]
    | token hcount hgrams htermCount hterms hk =>
      have hfault := readPostings_eq_unaddressable_iff.2 ⟨_, hk, _, r, hterms, htext⟩
      rw [reading_eq_ok_iff.2 hcount, ok_bind]
      simp only
      rw [hgrams, ok_bind]
      simp only
      rw [reading_eq_ok_iff.2 htermCount, ok_bind]
      simp only
      rw [hfault, error_bind]

/-! ## Faults in files -/

theorem readOrder_ne_unaddressable {r : Reader} {n : Nat} :
    readOrder r ≠ .error (.read (.unaddressable n)) := by
  intro h
  have hword (r : Reader) : reading r.readWord ≠ .error (.read (.unaddressable n)) :=
    fun h => addressed_readWord r n (reading_eq_error_iff.1 h)
  unfold readOrder at h
  rcases bind_eq_error.1 h with h | ⟨⟨m, r₁⟩, -, h⟩
  · exact hword r h
  simp only at h
  split at h
  · cases h
  rcases bind_eq_error.1 h with h | ⟨⟨v, r₂⟩, -, h⟩
  · exact hword r₁ h
  simp only at h
  split at h
  · cases h
  · exact hword r₂ h

/-- **The texts that reading a segment comes to.** -/
def ComesToText (order : Nat) (bytes : Bytes) (r : Reader) : Prop :=
  ∃ start, readOrder (ofBytes bytes) = .ok (order, start) ∧ TextInTables start r

theorem ComesToText.placeIn {order : Nat} {bytes : Bytes} {r : Reader}
    (h : ComesToText order bytes r) : PlaceIn bytes r := by
  obtain ⟨start, horder, hin⟩ := h
  have hstart := streams_readOrder.placeIn (placeIn_ofBytes bytes) horder
  exact hin.placeIn hstart

/-- **Reading leads beyond 2⁶⁴** where a text that it comes to does. -/
theorem decode_eq_unaddressable_iff {order n : Nat} {bytes : Bytes} :
    decode order bytes = .error (.read (.unaddressable n)) ↔
      ∃ r, ComesToText order bytes r ∧ r.readText = .error (.unaddressable n) := by
  rw [decode_eq]
  constructor
  · intro h
    rcases bind_eq_error.1 h with h | ⟨⟨stored, start⟩, horder, h⟩
    · exact absurd h readOrder_ne_unaddressable
    simp only at h
    split at h
    · cases h
    rename_i hsame
    obtain rfl : stored = order := Classical.not_not.1 hsame
    rcases bind_eq_error.1 h with h | ⟨⟨s, r⟩, -, h⟩
    · obtain ⟨r, hin, htext⟩ := readTables_eq_unaddressable_iff.1 h
      exact ⟨r, ⟨start, horder, hin⟩, htext⟩
    -- behind the tables there is no text
    rcases bind_eq_error.1 h with h | ⟨⟨intact, r'⟩, -, h⟩
    · exact absurd (reading_eq_error_iff.1 h) (addressed_verify r n)
    · cases intact with
      | true => cases h
      | false => cases h
  · rintro ⟨r, ⟨start, horder, hin⟩, htext⟩
    have hfault : readTables order start = .error (.read (.unaddressable n)) :=
      readTables_eq_unaddressable_iff.2 ⟨r, hin, htext⟩
    rw [horder, ok_bind, if_neg (not_not_intro rfl), hfault, error_bind]

/-- **A text that is longer than the rest of its file** is refused for its length, wherever it
stands, as long as 64 bits hold the position that the length leads to. Reading a segment goes
beyond that position just where a text that it comes to does. -/
theorem overlong_texts (bytes : Bytes) :
    (∀ r n r', PlaceIn bytes r → r.readVarint = .ok (n, r') → r'.rest.length < n →
      r.readText =
        .error (if Count.largest < r'.position + n then .unaddressable n else .textTooLong n)) ∧
      ∀ order n, decode order bytes = .error (.read (.unaddressable n)) ↔
        ∃ r r', ComesToText order bytes r ∧ r.readVarint = .ok (n, r') ∧ r'.rest.length < n ∧
          Count.largest < r'.position + n := by
  constructor
  · rintro r n r' ⟨past, rest, rfl, rfl⟩ hlen hlong
    obtain ⟨taken, left, -, rfl, -⟩ := streams_readVarint past rest n r' hlen
    have hlong' : left.length < n := hlong
    rw [readText_of_length hlen, if_pos hlong']
    rfl
  · intro order n
    rw [decode_eq_unaddressable_iff]
    constructor
    · rintro ⟨r, hcomes, htext⟩
      obtain ⟨past, rest, -, rfl⟩ := hcomes.placeIn
      obtain ⟨r', hlen, hlong, hbeyond⟩ := readText_eq_unaddressable_iff.1 htext
      exact ⟨_, r', hcomes, hlen, hlong, hbeyond⟩
    · rintro ⟨r, r', hcomes, hlen, hlong, hbeyond⟩
      obtain ⟨past, rest, -, rfl⟩ := hcomes.placeIn
      exact ⟨_, hcomes, readText_eq_unaddressable_iff.2 ⟨r', hlen, hlong, hbeyond⟩⟩

/-- The file of a segment of order 1, whose only gram is to have as many bytes as 64 bits count. -/
def endless : Bytes :=
  Record.encodeWord mark ++ (Record.encodeWord version ++ (Record.encodeWord 1 ++
    (Varint.encode 1 ++ (Varint.encode Count.largest ++ [0x61]))))

theorem overlong_texts_endless :
    decode 1 endless = .error (.read (.unaddressable Count.largest)) ∧
      ∃ r, PlaceIn endless r ∧ r.readText = .error (.unaddressable Count.largest) := by
  have horder := readOrder_encode (show 1 < Record.wordBound by decide)
    (Varint.encode 1 ++ (Varint.encode Count.largest ++ [0x61]))
  have hcount := readVarint_encode (Record.encodeWord mark ++ Record.encodeWord version ++
    Record.encodeWord 1) (Varint.encode Count.largest ++ [0x61]) (show 1 ≤ Count.largest by decide)
  have hlen := readVarint_encode (Record.encodeWord mark ++ Record.encodeWord version ++
    Record.encodeWord 1 ++ Varint.encode 1) [0x61] (Nat.le_refl Count.largest)
  have hcomes : ComesToText 1 endless _ := ⟨_, horder, .gram hcount rfl Nat.one_pos⟩
  -- one byte is left, and more than one has been read
  have hlong : 1 < Count.largest := by decide
  have hbeyond : Count.largest < (Record.encodeWord mark ++ Record.encodeWord version ++
      Record.encodeWord 1 ++ Varint.encode 1 ++ Varint.encode Count.largest).length +
        Count.largest :=
    Nat.lt_add_of_pos_left (by simp [Record.encodeWord])
  have htext := (overlong_texts endless).1 _ _ _ hcomes.placeIn hlen hlong
  exact ⟨((overlong_texts endless).2 1 Count.largest).2 ⟨_, _, hcomes, hlen, hlong, hbeyond⟩,
    _, hcomes.placeIn, htext.trans (congrArg Except.error (if_pos hbeyond))⟩

end Segment

end Kompositum

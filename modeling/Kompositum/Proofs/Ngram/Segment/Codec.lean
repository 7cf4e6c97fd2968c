import Kompositum.Ngram.Segment.Codec
import Kompositum.Proofs.Ngram.Segment.Search
import Kompositum.Proofs.Outcome
import Kompositum.Proofs.Record.Reader
import Kompositum.Proofs.Text.Pieces
import Kompositum.Proofs.Text.Table

/-!
# Segment files there and back

* `Segment.Fits`: the segments that a file can hold.
* `Segment.decode_encode`: such a segment is read as it was written.
* `Segment.fits_ofCounts`: the segment of some counts is such a segment.
-/

namespace Kompositum.Segment

open Reader

/-- **The segments that a file can hold**: all numbers have room in their fields, positions are
those of grams, and the tokens stand in ascending order. -/
structure Fits (s : Segment) : Prop where
  order_lt : s.order < Record.wordBound
  size_le : s.size ≤ Count.largest
  gram_le : ∀ g ∈ s.grams, Utf8.size g.1 ≤ Count.largest ∧ g.2 ≤ Count.largest
  termCount_le : s.termCount ≤ Count.largest
  term_le : ∀ p ∈ s.postings, Utf8.size p.1 ≤ Count.largest ∧ p.2.length ≤ Count.largest
  id_lt : ∀ p ∈ s.postings, ∀ id ∈ p.2, id < s.size ∧ id < Record.wordBound
  sorted : s.postings.Sorted

/-- The bytes of some grams. -/
def encodeGrams (grams : List (Text × Nat)) : Bytes :=
  grams.flatMap fun g => Record.encodeText g.1 ++ Varint.encode g.2

/-- The bytes of some tokens with their positions. -/
def encodeTerms (terms : Text.Table (List Nat)) : Bytes :=
  terms.flatMap fun p => Record.encodeText p.1 ++ Record.encodePostings p.2

/-- The bytes of a segment before the checksum. -/
def body (s : Segment) : Bytes :=
  Record.encodeWord mark ++ (Record.encodeWord version ++ (Record.encodeWord s.order ++
    (Varint.encode s.size ++ (encodeGrams s.grams ++ (Varint.encode s.termCount ++
      encodeTerms s.postings)))))

theorem encode_eq {s : Segment} (h : s.order < Record.wordBound) :
    s.encode = s.body ++ Record.encodeWord (Crc32.ofBytes s.body) := by
  have hfields : s.fields =
      [.word mark, .word version, .word (s.order % Record.wordBound), .varint s.size] ++
        s.grams.flatMap (fun g => [.text g.1, .varint g.2]) ++ [.varint s.termCount] ++
        s.postings.flatMap fun p => [.text p.1, .postings p.2] := rfl
  have hgrams : (s.grams.flatMap fun g => [Field.text g.1, .varint g.2]).flatMap Field.encode =
      encodeGrams s.grams := by
    rw [List.flatMap_assoc, encodeGrams]
    congr 1
    funext g
    simp [Field.encode]
  have hterms : (s.postings.flatMap fun p => [Field.text p.1, .postings p.2]).flatMap
      Field.encode = encodeTerms s.postings := by
    rw [List.flatMap_assoc, encodeTerms]
    congr 1
    funext p
    simp [Field.encode]
  have hbody : s.fields.flatMap Field.encode = s.body := by
    rw [hfields, List.flatMap_append, List.flatMap_append, List.flatMap_append, hgrams, hterms,
      Nat.mod_eq_of_lt h]
    simp [Field.encode, body]
  unfold encode
  rw [Record.encode_eq, hbody]

theorem readGrams_encode {grams : List (Text × Nat)}
    (h : ∀ g ∈ grams, Utf8.size g.1 ≤ Count.largest ∧ g.2 ≤ Count.largest) (past rest : Bytes) :
    readGrams grams.length (behind past (encodeGrams grams ++ rest)) =
      .ok (grams, behind (past ++ encodeGrams grams) rest) := by
  induction grams generalizing past with
  | nil => simp only [encodeGrams, List.flatMap_nil, List.append_nil]; rfl
  | cons g grams ih =>
    obtain ⟨htext, hcount⟩ := h g List.mem_cons_self
    have hrest := ih (fun x hx => h x (List.mem_cons_of_mem g hx))
      (past ++ Record.encodeText g.1 ++ Varint.encode g.2)
    have hcons : encodeGrams (g :: grams) =
        Record.encodeText g.1 ++ (Varint.encode g.2 ++ encodeGrams grams) := by
      rw [encodeGrams, List.flatMap_cons, List.append_assoc]
      rfl
    rw [hcons, List.append_assoc, List.append_assoc, List.length_cons, readGrams,
      readText_encode past _ htext, reading, ok_bind]
    simp only
    rw [readVarint_encode _ _ hcount, reading, ok_bind]
    simp only
    rw [hrest, ok_bind]
    simp only [List.append_assoc]
    rfl

theorem readPostings_encode (bound : Nat) {terms t : Text.Table (List Nat)}
    (hle : ∀ p ∈ terms, Utf8.size p.1 ≤ Count.largest ∧ p.2.length ≤ Count.largest)
    (hid : ∀ p ∈ terms, ∀ id ∈ p.2, id < bound ∧ id < Record.wordBound)
    (hsorted : Text.Table.Sorted (t ++ terms)) (past rest : Bytes) :
    readPostings bound t terms.length (behind past (encodeTerms terms ++ rest)) =
      .ok (t ++ terms, behind (past ++ encodeTerms terms) rest) := by
  induction terms generalizing t past with
  | nil => simp only [encodeTerms, List.flatMap_nil, List.append_nil]; rfl
  | cons p terms ih =>
    obtain ⟨htext, hlen⟩ := hle p List.mem_cons_self
    have hp := hid p List.mem_cons_self
    have hany : (p.2.any (bound ≤ ·)) = false := by
      rw [List.any_eq_false]
      intro id hm
      have := (hp id hm).1
      simp only [decide_eq_true_eq]
      omega
    have hlast : ∀ y ∈ t, Text.before y.1 p.1 = true := fun y hy =>
      (List.pairwise_append.1 hsorted).2.2 y hy p List.mem_cons_self
    have hinsert : t.insert p.1 p.2 = t ++ [p] := Text.Table.insert_of_forall_before hlast
    have hrest := ih (t := t ++ [p]) (fun x hx => hle x (List.mem_cons_of_mem p hx))
      (fun x hx => hid x (List.mem_cons_of_mem p hx)) (by rwa [List.append_assoc])
      (past ++ Record.encodeText p.1 ++ Record.encodePostings p.2)
    have hcons : encodeTerms (p :: terms) =
        Record.encodeText p.1 ++ (Record.encodePostings p.2 ++ encodeTerms terms) := by
      rw [encodeTerms, List.flatMap_cons, List.append_assoc]
      rfl
    rw [hcons, List.append_assoc, List.append_assoc, List.length_cons, readPostings,
      readText_encode past _ htext, reading, ok_bind]
    simp only
    rw [Reader.readPostings_encode _ _ hlen fun id hm => (hp id hm).2, reading, ok_bind]
    simp only [hany]
    rw [hinsert]
    simp only [List.append_assoc, List.singleton_append] at hrest ⊢
    exact hrest

/-- **A segment is read as it was written.** -/
theorem decode_encode {s : Segment} (h : s.Fits) : decode s.order s.encode = .ok s := by
  obtain ⟨r, hverify⟩ := verify_encode s.body
  have hgrams := readGrams_encode h.gram_le
  have hterms := readPostings_encode s.grams.length (t := []) h.term_le h.id_lt h.sorted
  have hsize : s.grams.length ≤ Count.largest := h.size_le
  have hcount : s.postings.length ≤ Count.largest := h.termCount_le
  rw [encode_eq h.order_lt]
  unfold body at hverify ⊢
  simp only [List.append_assoc, size, termCount] at hverify ⊢
  unfold decode
  rw [ofBytes_eq_behind]
  simp only [readWord_encode _ _ (show mark < Record.wordBound by decide), reading, ok_bind,
    readWord_encode _ _ (show version < Record.wordBound by decide),
    readWord_encode _ _ h.order_lt, readVarint_encode _ _ hsize, readVarint_encode _ _ hcount,
    hgrams, hterms, ne_eq, not_true_eq_false, if_false]
  -- what has been read is the body, whose checksum follows
  simp only [List.nil_append, List.append_assoc, hverify]
  rfl

/-- **A file holds the segment of some counts** if there are not too many grams and tokens, and
neither the grams nor their counts are too large. -/
theorem fits_ofCounts {order : Nat} {counts : Text.Table Nat} (horder : order < Record.wordBound)
    (hcount : counts.length ≤ maxGrams)
    (hgram : ∀ e ∈ counts, Utf8.size e.1 ≤ Count.largest ∧ e.2 ≤ Count.largest)
    (hterms : (ofCounts order counts).termCount ≤ Count.largest) :
    (ofCounts order counts).Fits := by
  have hmax : counts.length ≤ Count.largest := Nat.le_trans hcount (by decide)
  refine ⟨horder, hmax, hgram, hterms, fun p hp => ?_, fun p hp id hid => ?_,
    sorted_postings_ofCounts order counts⟩
  · obtain ⟨hids, hne⟩ := mem_postings_ofCounts hp
    refine ⟨?_, ?_⟩
    · obtain ⟨e, he, htoken⟩ := exists_of_occurrences_ne_nil hne
      have hpart : p.1.Sublist e.1 := Text.sublist_of_mem_splitWhen htoken
      exact Nat.le_trans (Text.size_le_of_sublist hpart) (hgram e he).1
    · rw [hids]
      exact Nat.le_trans (length_occurrences_le _ _ _) hmax
  · obtain ⟨hids, -⟩ := mem_postings_ofCounts hp
    have hlt := (occurrences_bounds id (hids ▸ hid)).2
    rw [Nat.zero_add] at hlt
    refine ⟨hlt, ?_⟩
    unfold maxGrams at hcount
    omega

end Kompositum.Segment

import Kompositum.Ngram.Segment.Codec
import Kompositum.Proofs.Record.Streaming

/-!
# The parts of a segment file

A segment file is read in three parts: what stands before the tables, the tables, and the checksum.
The first two are read straight on, whatever the order asked for.

* `Segment.decode_eq`: reading a segment is reading the parts of its file.
* `Segment.readContent`: the segment in a file, before its order and its checksum are looked at.
* `Segment.decode_eq_ok_iff`: when a segment is read.
-/

namespace Kompositum

namespace Segment

open Reader

/-- The order of the segment in a file, which stands behind the mark and the version. -/
def readOrder (r : Reader) : Except Fault (Nat × Reader) := do
  let (m, r) ← reading r.readWord
  if m ≠ mark then .error .badMark
  else
    let (v, r) ← reading r.readWord
    if v ≠ version then .error (.badVersion v) else reading r.readWord

/-- The segment of an order, of which the tables come next. -/
def readTables (order : Nat) (r : Reader) : Except Fault (Segment × Reader) := do
  let (gramCount, r) ← reading r.readVarint
  let (grams, r) ← readGrams gramCount r
  let (termCount, r) ← reading r.readVarint
  let (postings, r) ← readPostings gramCount [] termCount r
  return (⟨order, grams, postings⟩, r)

/-- **Reading a segment** is reading the parts of its file. -/
theorem decode_eq (order : Nat) (bytes : Bytes) :
    decode order bytes = (readOrder (ofBytes bytes) >>= fun head =>
      if head.1 ≠ order then .error (.otherOrder head.1)
      else readTables order head.2 >>= fun content => reading content.2.verify >>= fun intact =>
        if intact.1 then .ok content.1 else .error .wrongChecksum) := by
  unfold decode readOrder readTables
  -- a check that fails leaves out the rest, which is the same for all of them
  simp only [error_bind, ite_bind, bind_assoc, pure_bind]
  rfl

/-- The order stands behind the mark and the version, as it was written. -/
theorem readOrder_encode {order : Nat} (h : order < Record.wordBound) (rest : Bytes) :
    readOrder (ofBytes (Record.encodeWord mark ++ (Record.encodeWord version ++
        (Record.encodeWord order ++ rest)))) =
      .ok (order, behind (Record.encodeWord mark ++ Record.encodeWord version ++
        Record.encodeWord order) rest) := by
  rw [ofBytes_eq_behind]
  unfold readOrder
  simp only [readWord_encode _ _ (show mark < Record.wordBound by decide), reading, ok_bind,
    readWord_encode _ _ (show version < Record.wordBound by decide), readWord_encode _ _ h,
    ne_eq, not_true_eq_false, if_false, List.nil_append]

/-! ## Straight on -/

theorem reading_eq_ok_iff {α : Type} {x : Except ReadFault α} {a : α} :
    reading x = .ok a ↔ x = .ok a := by
  cases x with
  | ok b => simp [reading]
  | error fault => simp [reading]

theorem streams_reading {α : Type} {f : Reader → Except ReadFault (α × Reader)} (hf : Streams f) :
    Streams fun r => reading (f r) := by
  intro past rest a r h
  obtain ⟨taken, left, hrest, hr, hmore⟩ := hf past rest a r (reading_eq_ok_iff.1 h)
  exact ⟨taken, left, hrest, hr, fun more => reading_eq_ok_iff.2 (hmore more)⟩

theorem streams_readGrams (n : Nat) : Streams (readGrams n) := by
  induction n with
  | zero => exact streams_pure []
  | succ n ih =>
    exact (streams_reading streams_readText).bind fun gram =>
      (streams_reading streams_readVarint).bind fun freq =>
        ih.bind fun rest => streams_pure ((gram, freq) :: rest)

theorem streams_readPostings (bound : Nat) (known : Text.Table (List Nat)) (n : Nat) :
    Streams (readPostings bound known n) := by
  induction n generalizing known with
  | zero => exact streams_pure known
  | succ n ih =>
    exact (streams_reading streams_readText).bind fun token =>
      (streams_reading Reader.streams_readPostings).bind fun ids =>
        (ih (known.insert token ids)).unless (ids.any (bound ≤ ·)) .postingOutOfRange

theorem streams_readOrder : Streams readOrder := by
  have hword : Streams fun r => reading r.readWord := streams_reading streams_readWord
  exact hword.bind fun m => (hword.bind fun v =>
    hword.unless (v ≠ version) (.badVersion v)).unless (m ≠ mark) .badMark

theorem streams_readTables (order : Nat) : Streams (readTables order) := by
  have hcount : Streams fun r => reading r.readVarint := streams_reading streams_readVarint
  exact hcount.bind fun gramCount => (streams_readGrams gramCount).bind fun grams =>
    hcount.bind fun termCount => (streams_readPostings gramCount [] termCount).bind fun postings =>
      streams_pure (Segment.mk order grams postings)

/-! ## The segment in a file -/

/-- **The segment in a file**, of whatever order. -/
def readContent (r : Reader) : Except Fault (Segment × Reader) :=
  readOrder r >>= fun head => readTables head.1 head.2

theorem streams_readContent : Streams readContent :=
  streams_readOrder.bind streams_readTables

theorem order_of_readTables {order : Nat} {r r' : Reader} {s : Segment}
    (h : readTables order r = .ok (s, r')) : s.order = order := by
  unfold readTables at h
  simp only [bind_eq_ok] at h
  obtain ⟨_, -, _, -, _, -, _, -, h⟩ := h
  cases h
  rfl

/-- **A segment is read** when it is the one in the file, has the order asked for, and the right
checksum stands behind it. -/
theorem decode_eq_ok_iff {order : Nat} {bytes : Bytes} {s : Segment} :
    decode order bytes = .ok s ↔ s.order = order ∧
      ∃ r r', readContent (ofBytes bytes) = .ok (s, r) ∧ r.verify = .ok (true, r') := by
  rw [decode_eq, readContent]
  cases readOrder (ofBytes bytes) with
  | error fault =>
    simp only [error_bind]
    simp
  | ok head =>
    simp only [ok_bind]
    by_cases horder : head.1 ≠ order
    · simp only [if_pos horder]
      constructor
      · intro h
        cases h
      · rintro ⟨hs, r, r', htables, -⟩
        exact absurd ((order_of_readTables htables).symm.trans hs) horder
    · obtain rfl := Classical.not_not.1 horder
      simp only [if_neg horder]
      constructor
      · intro h
        obtain ⟨⟨s', r⟩, htables, h⟩ := bind_eq_ok.1 h
        obtain ⟨⟨intact, r'⟩, hverify, h⟩ := bind_eq_ok.1 h
        cases intact with
        | false => cases h
        | true =>
          cases h
          exact ⟨order_of_readTables htables, r, r', htables, reading_eq_ok_iff.1 hverify⟩
      · rintro ⟨-, r, r', htables, hverify⟩
        rw [htables, ok_bind, reading_eq_ok_iff.2 hverify]
        rfl

end Segment

end Kompositum

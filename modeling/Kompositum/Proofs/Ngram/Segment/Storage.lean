import Kompositum.Proofs.Ngram.Counts
import Kompositum.Proofs.Ngram.Segment.Codec
import Kompositum.Proofs.Ngram.Segment.Parts
import Kompositum.Proofs.Storage.Lawful

/-!
# Segments in a storage

A segment that has been built from some counts is put into a storage and loaded again as it was:
with the same order, grams and positions, so that it answers as before. Its file is of no use for
another order.

* `Segment.save_eq_ok_iff`, `Segment.load_eq_ok_iff`: when a segment is saved, and loaded.
* `Segment.InMemory`: counts that can be in memory together.
* `Segment.load_save_built`: what is saved is loaded.
-/

namespace Kompositum

open Reader

namespace Segment

variable {σ : Type} [Store σ]

/-- **A segment is saved** when it is written to the file of its order. -/
theorem save_eq_ok_iff {s : Segment} {st st' : σ} :
    s.save st = .ok st' ↔ Store.write st (fileName s.order) s.encode = .ok st' := by
  unfold save
  exact mapError_eq_ok_iff

/-- **A segment is loaded** when it is read from the file of its order. -/
theorem load_eq_ok_iff {st : σ} {order : Nat} {s : Segment} :
    load order st = .ok s ↔
      ∃ bytes, Store.read st (fileName order) = .ok bytes ∧ decode order bytes = .ok s := by
  unfold load
  simp only [bind_eq_ok, mapError_eq_ok_iff]

end Segment

/-- A segment is built unless there are too many grams. -/
theorem Indexer.segment_eq_ok_iff {order : Nat} {counts : Text.Table Nat} {s : Segment} :
    segment order counts = .ok s ↔
      counts.length ≤ Segment.maxGrams ∧ s = .ofCounts order counts := by
  unfold segment
  split
  · rename_i hmany
    simp [Nat.not_le.2 hmany]
  · rename_i hfew
    simp [Nat.not_lt.1 hfew, eq_comm]

namespace Segment

open Text (Table)

/-! ## There and back -/

/-- **Counts that can be in memory together**: 64 bits hold every one of them, and the address of
every byte of the grams, with a byte to spare for each. -/
structure InMemory (counts : Table Nat) : Prop where
  sorted : counts.Sorted
  count_le : ∀ e ∈ counts, e.2 ≤ Count.largest
  spread_le : Text.spread counts.keys ≤ Count.largest

theorem size_lt_spread {t : Text} {ts : List Text} (h : t ∈ ts) :
    Utf8.size t < Text.spread ts := by
  induction ts with
  | nil => cases h
  | cons u us ih =>
    rw [Text.spread]
    rcases List.mem_cons.1 h with rfl | h
    · omega
    · have := ih h
      omega

theorem length_le_spread (ts : List Text) : ts.length ≤ Text.spread ts := by
  induction ts with
  | nil => exact Nat.le_refl 0
  | cons t ts ih =>
    rw [Text.spread, List.length_cons]
    omega

/-- A gram has fewer pieces than bytes, but for one. -/
theorem length_pieces_le_spread (counts : Table Nat) :
    (counts.flatMap fun e => Ngram.pieces e.1).length ≤ Text.spread counts.keys := by
  induction counts with
  | nil => exact Nat.le_refl 0
  | cons e counts ih =>
    have hpieces : Text.spread (Ngram.pieces e.1) ≤ Utf8.size e.1 + 1 :=
      Text.spread_splitWhen_le (· == ' ') e.1
    have hlen := length_le_spread (Ngram.pieces e.1)
    have hkeys : Table.keys (e :: counts) = e.1 :: Table.keys counts := rfl
    rw [List.flatMap_cons, List.length_append, hkeys, Text.spread]
    omega

/-- **A file holds every segment that has been built.** -/
theorem fits_of_inMemory {order : Nat} {counts : Table Nat} (h : InMemory counts)
    (horder : order < Record.wordBound) (hfew : counts.length ≤ maxGrams) :
    (ofCounts order counts).Fits := by
  refine fits_ofCounts horder hfew (fun e he => ⟨?_, h.count_le e he⟩) ?_
  · have hkey : e.1 ∈ counts.keys := List.mem_map_of_mem he
    have hsize := size_lt_spread hkey
    exact Nat.le_trans (Nat.le_of_lt hsize) h.spread_le
  · have hterms := termCount_ofCounts_le order counts
    have hpieces := length_pieces_le_spread counts
    exact Nat.le_trans (Nat.le_trans hterms hpieces) h.spread_le

/-- **The file of a segment** is none of another order. -/
theorem decode_encode_of_ne {s : Segment} (h : s.order < Record.wordBound) {order : Nat}
    (hne : order ≠ s.order) : decode order s.encode = .error (.otherOrder s.order) := by
  rw [encode_eq h, decode_eq]
  unfold body
  simp only [List.append_assoc]
  rw [readOrder_encode h, ok_bind, if_pos (Ne.symm hne)]

/-- **The file of a segment** has no place for an order of 2³² or more. -/
theorem decode_encode_of_le {s : Segment} (h : Record.wordBound ≤ s.order) :
    decode s.order s.encode = .error (.otherOrder (s.order % Record.wordBound)) := by
  have hlt : s.order % Record.wordBound < Record.wordBound := Nat.mod_lt _ (by decide)
  have hencode : s.encode = ({ s with order := s.order % Record.wordBound } : Segment).encode := by
    unfold encode fields
    dsimp only
    rw [Nat.mod_mod]
  rw [hencode]
  exact decode_encode_of_ne (s := { s with order := s.order % Record.wordBound }) hlt (by
    dsimp only
    omega)

/-- **A segment that has been built** is loaded as it was saved, whatever the storage. It holds the
counts that it was built from, and is of no use for another order. -/
theorem load_save_built {order : Nat} {counts : Table Nat} {s : Segment} (h : InMemory counts)
    (horder : order < Record.wordBound) (hbuilt : Indexer.segment order counts = .ok s) :
    s.order = order ∧ s.grams = counts ∧
      (∀ m : Memory, ∃ m', s.save m = .ok m') ∧
      ∀ (σ : Type) [Store σ], (∀ (st st' : σ) [Store.Lawful σ],
        s.save st = .ok st' → load order st' = .ok s) ∧
      ∀ (other : Nat) (st : σ), other ≠ order → Store.read st (fileName other) = .ok s.encode →
        load other st = .error (.index (.segment other (.otherOrder order))) := by
  obtain ⟨hfew, rfl⟩ := Indexer.segment_eq_ok_iff.1 hbuilt
  have hloaded : decode order (ofCounts order counts).encode = .ok (ofCounts order counts) :=
    decode_encode (fits_of_inMemory h horder hfew)
  refine ⟨rfl, rfl, fun m => ⟨_, rfl⟩, fun σ _ => ⟨fun st st' _ hsave => ?_,
    fun other st hne hread => ?_⟩⟩
  · have hread := Store.Lawful.read_write (save_eq_ok_iff.1 hsave)
    exact load_eq_ok_iff.2 ⟨_, hread, hloaded⟩
  · have hother := decode_encode_of_ne (s := ofCounts order counts) horder hne
    unfold load
    rw [hread, mapError_ok, ok_bind, hother]
    rfl

/-- The empty gram, a token twice in one gram, and counts at both ends. -/
def threeCounts : Table Nat := [([], 0), ("a b", Count.largest), ("b b", 7)]

theorem inMemory_threeCounts : InMemory threeCounts := by
  refine ⟨?_, ?_, ?_⟩
  · unfold Table.Sorted
    decide
  · decide
  · decide

/-- The folder in which the program runs, with nothing in it. -/
def emptyFolder : Directory := ⟨['.'], ⟨[['w']], [([['w']], .folder)]⟩, []⟩

theorem load_save_built_three : InMemory threeCounts ∧ 2 < Record.wordBound ∧
    ∃ s m' d', Indexer.segment 2 threeCounts = .ok s ∧ s.grams = threeCounts ∧
      s.save Memory.empty = .ok m' ∧ load 2 m' = .ok s ∧
      s.save emptyFolder = .ok d' ∧ load 2 d' = .ok s := by
  have horder : 2 < Record.wordBound := by decide
  have hbuilt : Indexer.segment 2 threeCounts = .ok (ofCounts 2 threeCounts) :=
    Indexer.segment_eq_ok_iff.2 ⟨by decide, rfl⟩
  obtain ⟨-, hgrams, hsave, hload⟩ := load_save_built inMemory_threeCounts horder hbuilt
  obtain ⟨m', hm'⟩ := hsave Memory.empty
  obtain ⟨d', hd'⟩ : ∃ d', (ofCounts 2 threeCounts).save emptyFolder = .ok d' := ⟨_, rfl⟩
  exact ⟨inMemory_threeCounts, horder, _, m', d', hbuilt, hgrams, hm', (hload Memory).1 _ m' hm',
    hd', (hload Directory).1 _ d' hd'⟩

end Segment

end Kompositum

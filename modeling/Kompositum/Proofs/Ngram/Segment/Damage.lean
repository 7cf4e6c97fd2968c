import Kompositum.Proofs.Ngram.Segment.Parts
import Kompositum.Proofs.Ngram.Segment.Storage
import Kompositum.Proofs.Record.Damage

/-!
# Damaged segment files

The file of a segment is read straight on up to its checksum, whatever its numbers say. So once a
byte has been replaced, the end is lost or something stands behind it, no segment is loaded any
more, neither one of the same order nor one of another order.

* `Segment.decode_damaged`: a damaged file holds no segment.
* `Segment.load_damaged`: what has been built and damaged is not loaded, whatever the storage.
-/

namespace Kompositum

open Reader

namespace Segment

theorem intact_of_decode {order : Nat} {bytes : Bytes} {s : Segment}
    (h : decode order bytes = .ok s) : Intact readContent bytes := by
  obtain ⟨-, r, r', hread, hverify⟩ := decode_eq_ok_iff.1 h
  exact ⟨s, r, r', hread, hverify⟩

/-- **A damaged file holds no segment**, of whatever order. -/
theorem decode_damaged {order : Nat} {bytes bytes' : Bytes} {s : Segment}
    (h : decode order bytes = .ok s) (hd : Damaged bytes bytes') (other : Nat) :
    ∃ fault, decode other bytes' = .error fault := by
  cases h' : decode other bytes' with
  | error fault => exact ⟨fault, rfl⟩
  | ok s' =>
    have hnot : ¬Intact readContent bytes' :=
      streams_readContent.not_intact (intact_of_decode h) hd
    exact absurd (intact_of_decode h') hnot

/-- **What has been built and damaged is not loaded**, though it would be loaded as it was: neither
after a byte of the file has been replaced by another one, wherever it stands, nor after its end has
been lost or something has been added behind it. -/
theorem load_damaged {order : Nat} {counts : Text.Table Nat} {s : Segment} (h : InMemory counts)
    (horder : order < Record.wordBound) (hbuilt : Indexer.segment order counts = .ok s)
    (σ : Type) [Store σ] (st : σ) :
    (Store.read st (fileName order) = .ok s.encode → load order st = .ok s) ∧
      ∀ (bytes : Bytes) (other : Nat), Damaged s.encode bytes →
        Store.read st (fileName other) = .ok bytes →
          ∃ fault, load other st = .error (.ofSegment other fault) := by
  obtain ⟨hfew, rfl⟩ := Indexer.segment_eq_ok_iff.1 hbuilt
  have hwhole : decode order (ofCounts order counts).encode = .ok (ofCounts order counts) :=
    decode_encode (fits_of_inMemory h horder hfew)
  constructor
  · intro hread
    unfold load
    rw [hread, mapError_ok, ok_bind, hwhole, mapError_ok]
  · intro bytes other hd hread
    obtain ⟨fault, hfault⟩ := decode_damaged hwhole hd other
    refine ⟨fault, ?_⟩
    unfold load
    rw [hread, mapError_ok, ok_bind, hfault]
    rfl

/-- The order in the file is 2; another one in its place makes no segment of that order. -/
theorem load_damaged_three : InMemory threeCounts ∧ 2 < Record.wordBound ∧
    ∃ s, Indexer.segment 2 threeCounts = .ok s ∧ Damaged s.encode (s.encode.set 8 3) ∧
      ∃ m : Memory, Store.read m (fileName 2) = .ok s.encode ∧
        Store.read m (fileName 3) = .ok (s.encode.set 8 3) ∧
        load 2 m = .ok s ∧ ∃ fault, load 3 m = .error (.ofSegment 3 fault) := by
  have horder : 2 < Record.wordBound := by decide
  have hbuilt : Indexer.segment 2 threeCounts = .ok (ofCounts 2 threeCounts) :=
    Indexer.segment_eq_ok_iff.2 ⟨by decide, rfl⟩
  have hd : Damaged (ofCounts 2 threeCounts).encode ((ofCounts 2 threeCounts).encode.set 8 3) :=
    .replaced 8 3 (by decide) (by decide)
  have hread (bytes bytes' : Bytes) :
      Store.read (⟨[(fileName 2, bytes), (fileName 3, bytes')], []⟩ : Memory) (fileName 2) =
        .ok bytes := rfl
  have hread' (bytes bytes' : Bytes) :
      Store.read (⟨[(fileName 2, bytes), (fileName 3, bytes')], []⟩ : Memory) (fileName 3) =
        .ok bytes' := rfl
  obtain ⟨hwhole, hdamaged⟩ := load_damaged inMemory_threeCounts horder hbuilt Memory
    ⟨[(fileName 2, _), (fileName 3, _)], []⟩
  exact ⟨inMemory_threeCounts, horder, _, hbuilt, hd, _, hread _ _, hread' _ _,
    hwhole (hread _ _), hdamaged _ 3 hd (hread' _ _)⟩

end Segment

end Kompositum

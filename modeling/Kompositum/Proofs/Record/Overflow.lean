import Kompositum.Proofs.Record.Streaming

/-!
# Texts beyond the end

The number of bytes of a text is read before the text. When it leads beyond the end of the file,
this is noticed before the text is looked at. But the position to which it leads may be one that
64 bits do not hold, and then there is no telling where the text would end. Nothing else that is
read has this fault.

* `Reader.readText_of_length`: a text by its length.
* `Reader.readText_eq_unaddressable_iff`: when a text leads beyond 2⁶⁴.
* `Reader.Addressed`: reading that never does.
-/

namespace Kompositum

namespace Reader

variable {α β : Type}

/-! ## Values without this fault -/

/-- **Reading that never leads beyond 2⁶⁴.** -/
def Addressed (f : Reader → Except ReadFault (α × Reader)) : Prop :=
  ∀ r n, f r ≠ .error (.unaddressable n)

theorem Addressed.bind {f : Reader → Except ReadFault (α × Reader)}
    {g : α → Reader → Except ReadFault (β × Reader)} (hf : Addressed f)
    (hg : ∀ a, Addressed (g a)) : Addressed fun r => f r >>= fun p => g p.1 p.2 := by
  intro r n h
  rcases bind_eq_error.1 h with h | ⟨p, -, h⟩
  · exact hf r n h
  · exact hg p.1 p.2 n h

theorem addressed_pure (a : α) :
    Addressed fun r => (.ok (a, r) : Except ReadFault (α × Reader)) :=
  fun _ _ h => by cases h

theorem addressed_readRaw (k : Nat) : Addressed (readRaw k) := by
  intro r n h
  unfold readRaw at h
  simp only at h
  split at h
  · cases h
  · cases h

theorem addressed_readWord : Addressed readWord :=
  (addressed_readRaw 4).bind fun bytes => addressed_pure (wordOf bytes)

theorem addressed_readVarint : Addressed readVarint := by
  intro r n h
  unfold readVarint at h
  split at h
  · cases h
  · split at h
    · cases h
    · cases h

theorem addressed_readDistances (previous k : Nat) : Addressed (readDistances previous k) := by
  induction k generalizing previous with
  | zero => exact addressed_pure []
  | succ k ih =>
    exact addressed_readVarint.bind fun d =>
      (ih ((previous + d) % Record.wordBound)).bind fun ids =>
        addressed_pure ((previous + d) % Record.wordBound :: ids)

theorem addressed_readPostings : Addressed readPostings :=
  addressed_readVarint.bind fun k => addressed_readDistances 0 k

theorem addressed_verify : Addressed verify := by
  intro r n h
  unfold verify at h
  split at h
  · cases h
  · rcases bind_eq_error.1 h with h | ⟨p, -, h⟩
    · exact addressed_readWord r n h
    · cases h

/-! ## The length of a text -/

/-- **A text by its length**: its bytes are read only if there are so many of them. -/
theorem readText_of_length {past rest past' left : Bytes} {n : Nat}
    (h : (behind past rest).readVarint = .ok (n, behind past' left)) :
    (behind past rest).readText =
      if left.length < n then
        .error (if Count.largest < past'.length + n then .unaddressable n else .textTooLong n)
      else
        (Utf8.decode (left.take n)).mapError .utf8 >>= fun t =>
          .ok (t, behind (past' ++ left.take n) (left.drop n)) := by
  have hsize : (behind past' left).size = past'.length + left.length := List.length_append
  have hroom : (behind past' left).size < (behind past' left).position + n ↔ left.length < n := by
    rw [hsize]
    exact Nat.add_lt_add_iff_left
  unfold readText
  rw [h, ok_bind]
  simp only [hroom]
  by_cases hlong : left.length < n
  · rw [if_pos hlong, if_pos hlong]
    rfl
  · rw [if_neg hlong, if_neg hlong]
    have hlen : (left.take n).length = n := List.length_take_of_le (Nat.not_lt.1 hlong)
    have hraw := readRaw_append past' (left.drop n) (left.take n)
    rw [List.take_append_drop, hlen] at hraw
    rw [hraw, ok_bind]
    cases Utf8.decode (left.take n) with
    | ok t => rfl
    | error fault => rfl

/-- **A text leads beyond 2⁶⁴** if its length does, and leads beyond the end of the file. -/
theorem readText_eq_unaddressable_iff {past rest : Bytes} {n : Nat} :
    (behind past rest).readText = .error (.unaddressable n) ↔
      ∃ r, (behind past rest).readVarint = .ok (n, r) ∧ r.rest.length < n ∧
        Count.largest < r.position + n := by
  constructor
  · intro h
    cases hlen : (behind past rest).readVarint with
    | error fault =>
      unfold readText at h
      rw [hlen, error_bind] at h
      cases h
      exact absurd hlen (addressed_readVarint _ n)
    | ok p =>
      obtain ⟨m, r⟩ := p
      obtain ⟨taken, left, -, rfl, -⟩ := streams_readVarint past rest m r hlen
      rw [readText_of_length hlen] at h
      split at h
      · rename_i hlong
        split at h
        · rename_i hbeyond
          cases h
          exact ⟨_, rfl, hlong, hbeyond⟩
        · cases h
      · cases hutf8 : Utf8.decode (left.take m) with
        | ok t =>
          rw [hutf8] at h
          cases h
        | error fault =>
          rw [hutf8] at h
          cases h
  · rintro ⟨r, hlen, hlong, hbeyond⟩
    obtain ⟨taken, left, -, rfl, -⟩ := streams_readVarint past rest n r hlen
    have hlong' : left.length < n := hlong
    have hbeyond' : Count.largest < (past ++ taken).length + n := hbeyond
    rw [readText_of_length hlen, if_pos hlong', if_pos hbeyond']

end Reader

end Kompositum

import Kompositum.Record.Crc32

/-!
# The checksum tells bytes apart

The highest bit of the divisor is set, so a bit that leaves the register can be told from the
register after it. No step loses anything: registers that differ go on to differ as long as the same
bytes follow, and so does the register after two different bytes.

* `Crc32.step_inj`: a step undone.
* `Crc32.update_inj`: the same bytes keep different registers apart.
* `Crc32.ofBytes_set_inj`: a byte in place of another one changes the checksum.
-/

namespace Kompositum.Crc32

/-- **The register after one bit**, bit by bit. -/
theorem getLsbD_step (r : BitVec 32) (i : Nat) :
    (step r).getLsbD i = ((r.getLsbD 0 && divisor.getLsbD i) ^^ r.getLsbD (1 + i)) := by
  unfold step
  cases h : r.getLsbD 0
  · simp [BitVec.getLsbD_ushiftRight]
  · simp only [if_true, BitVec.getLsbD_xor, BitVec.getLsbD_ushiftRight, Bool.true_and]
    exact Bool.xor_comm _ _

theorem step_inj {r s : BitVec 32} : step r = step s ↔ r = s := by
  refine ⟨fun h => ?_, congrArg step⟩
  have hbit (i : Nat) := congrArg (BitVec.getLsbD · i) h
  simp only [getLsbD_step] at hbit
  -- nothing is shifted into the highest bit, where the divisor has its own
  have hlow : r.getLsbD 0 = s.getLsbD 0 := by
    have hdivisor : divisor.getLsbD 31 = true := by decide
    have hout (x : BitVec 32) : x.getLsbD (1 + 31) = false := BitVec.getLsbD_of_ge x _ (by decide)
    have htop := hbit 31
    rwa [hdivisor, hout, hout, Bool.and_true, Bool.and_true, Bool.xor_false, Bool.xor_false] at htop
  refine BitVec.eq_of_getLsbD_eq fun i hi => ?_
  cases i with
  | zero => exact hlow
  | succ i =>
    have hhigh := hbit i
    rw [hlow, Bool.xor_right_inj, Nat.add_comm] at hhigh
    exact hhigh

/-- **The register after one byte** tells what it was, and which byte it took. -/
theorem push_inj {s t : Crc32} {b c : UInt8} :
    push s b = push t c ↔
      s.register ^^^ b.toBitVec.zeroExtend 32 = t.register ^^^ c.toBitVec.zeroExtend 32 := by
  unfold push
  simp only [mk.injEq, step_inj]

theorem push_left_inj {s t : Crc32} {b : UInt8} : push s b = push t b ↔ s = t := by
  obtain ⟨r⟩ := s
  obtain ⟨r'⟩ := t
  rw [push_inj, BitVec.xor_left_inj, mk.injEq]

theorem push_right_inj {s : Crc32} {b c : UInt8} : push s b = push s c ↔ b = c := by
  rw [push_inj, BitVec.xor_right_inj]
  refine ⟨fun h => ?_, fun h => h ▸ rfl⟩
  have hnat := congrArg BitVec.toNat h
  rw [BitVec.toNat_setWidth_of_le (by decide), BitVec.toNat_setWidth_of_le (by decide)] at hnat
  exact UInt8.toNat_inj.1 hnat

/-- **The same bytes** keep different registers apart. -/
theorem update_inj {s t : Crc32} (bytes : Bytes) : s.update bytes = t.update bytes ↔ s = t := by
  induction bytes generalizing s t with
  | nil => exact Iff.rfl
  | cons b bytes ih =>
    change update (push s b) bytes = update (push t b) bytes ↔ s = t
    rw [ih, push_left_inj]

theorem value_inj {s t : Crc32} : s.value = t.value ↔ s = t := by
  obtain ⟨r⟩ := s
  obtain ⟨r'⟩ := t
  unfold value
  rw [BitVec.toNat_inj, BitVec.not_inj, mk.injEq]

/-- **A byte in place of another one** changes the checksum. -/
theorem ofBytes_set_inj {bytes : Bytes} {i : Nat} {b : UInt8} :
    ofBytes (bytes.set i b) = ofBytes bytes ↔ bytes.set i b = bytes := by
  refine ⟨fun h => ?_, fun h => by rw [h]⟩
  rcases Nat.lt_or_ge i bytes.length with hi | hi
  · have hupdate (c : UInt8) : start.update (bytes.take i ++ c :: bytes.drop (i + 1)) =
        update (push (start.update (bytes.take i)) c) (bytes.drop (i + 1)) := by
      unfold update
      rw [List.foldl_append, List.foldl_cons]
    have hold : bytes.take i ++ bytes[i] :: bytes.drop (i + 1) = bytes := by
      rw [← List.drop_eq_getElem_cons hi, List.take_append_drop]
    have hnew := List.set_eq_take_append_cons_drop (l := bytes) (i := i) (a := b)
    rw [if_pos hi] at hnew
    -- what comes before and after it is the same
    unfold ofBytes at h
    rw [value_inj, hnew] at h
    conv at h => rhs; rw [← hold]
    rw [hupdate, hupdate, update_inj, push_right_inj] at h
    rw [h, List.set_getElem_self]
  · exact List.set_eq_of_length_le hi

end Kompositum.Crc32

import Kompositum.Proofs.Record.Varint
import Kompositum.Proofs.Text.Utf8
import Kompositum.Record.Reader

/-!
# Records there and back

A value that has been written is read as this value, whatever stands before and after it, and the
reader stops behind it.

* `Reader.behind`: the reader that has come to a place in a file.
* `Reader.readText_encode`, `Reader.readPostings_encode` and their like: a value there and back.
* `Reader.verify_encode`: the end of a record.
-/

namespace Kompositum

namespace Reader

/-- **The reader that has come to a place**, where `past` stands before it and `rest` after it. -/
def behind (past rest : Bytes) : Reader :=
  ⟨rest, past.length, Crc32.start.update past, (past ++ rest).length⟩

variable (past rest : Bytes)

theorem ofBytes_eq_behind (bytes : Bytes) : ofBytes bytes = behind [] bytes := rfl

theorem rest_behind : (behind past rest).rest = rest := rfl

theorem after_behind (bytes : Bytes) :
    (behind past (bytes ++ rest)).after bytes rest = behind (past ++ bytes) rest := by
  unfold behind after Crc32.update
  simp only [List.foldl_append, List.length_append, List.append_assoc]

/-- **Bytes there and back.** -/
theorem readRaw_append (bytes : Bytes) :
    (behind past (bytes ++ rest)).readRaw bytes.length =
      .ok (bytes, behind (past ++ bytes) rest) := by
  unfold readRaw
  rw [rest_behind, List.take_left, List.drop_left]
  simp only [Nat.lt_irrefl, if_false]
  rw [after_behind]

/-! ## Words -/

theorem wordOf_encodeWord {n : Nat} (h : n < Record.wordBound) :
    wordOf (Record.encodeWord n) = n := by
  have hbyte : ∀ m : Nat, m.toUInt8.toNat = m % 256 := fun m => by
    rw [Nat.toUInt8, UInt8.toNat_ofNat']
  unfold wordOf Record.encodeWord
  simp only [List.foldr_cons, List.foldr_nil, hbyte]
  unfold Record.wordBound at h
  omega

/-- **A number below 2³² there and back.** -/
theorem readWord_encode {n : Nat} (h : n < Record.wordBound) :
    (behind past (Record.encodeWord n ++ rest)).readWord =
      .ok (n, behind (past ++ Record.encodeWord n) rest) := by
  have hraw := readRaw_append past rest (Record.encodeWord n)
  have hlen : (Record.encodeWord n).length = 4 := rfl
  rw [hlen] at hraw
  unfold readWord
  rw [hraw]
  exact congrArg (fun m => Except.ok (m, _)) (wordOf_encodeWord h)

/-! ## Numbers of variable length -/

theorem varintBytes?_encode {n k : Nat} (h : (Varint.encode n).length ≤ k) :
    varintBytes? k (Varint.encode n ++ rest) = some (Varint.encode n) := by
  induction n using Varint.groups_induction generalizing k with
  | last n hn =>
    rw [Varint.encode_of_lt hn] at h ⊢
    obtain ⟨k, rfl⟩ := Nat.exists_eq_succ_of_ne_zero (Nat.ne_of_gt h)
    rw [List.singleton_append, varintBytes?, if_pos (Varint.last_lt hn)]
  | more n hn ih =>
    rw [Varint.encode_of_le hn, List.length_cons] at h
    obtain ⟨k, rfl⟩ := Nat.exists_eq_succ_of_ne_zero (Nat.ne_of_gt (Nat.lt_of_lt_of_le
      (Nat.succ_pos _) h))
    rw [Varint.encode_of_le hn, List.cons_append, varintBytes?, if_neg (Varint.not_more_lt n),
      ih (Nat.le_of_succ_le_succ h)]
    rfl

/-- **A number below 2⁶⁴ there and back.** -/
theorem readVarint_encode {n : Nat} (h : n ≤ Count.largest) :
    (behind past (Varint.encode n ++ rest)).readVarint =
      .ok (n, behind (past ++ Varint.encode n) rest) := by
  have hbytes := varintBytes?_encode rest (n := n) (k := Varint.maxLength + 1)
    (Nat.le_succ_of_le (Varint.length_encode_le h))
  have hdecode := Varint.decode_encode h []
  rw [List.append_nil] at hdecode
  unfold readVarint
  rw [rest_behind, hbytes]
  simp only [hdecode]
  rw [List.drop_left, after_behind]

/-! ## Texts -/

/-- **A text there and back.** -/
theorem readText_encode {t : Text} (h : Utf8.size t ≤ Count.largest) :
    (behind past (Record.encodeText t ++ rest)).readText =
      .ok (t, behind (past ++ Record.encodeText t) rest) := by
  have hnumber := readVarint_encode past (Utf8.encode t ++ rest) h
  have hraw : readRaw (Utf8.size t) (behind (past ++ Varint.encode (Utf8.size t))
      (Utf8.encode t ++ rest)) =
        .ok (Utf8.encode t, behind (past ++ Varint.encode (Utf8.size t) ++ Utf8.encode t) rest) :=
    readRaw_append (past ++ Varint.encode (Utf8.size t)) rest (Utf8.encode t)
  have hencode : Record.encodeText t = Varint.encode (Utf8.size t) ++ Utf8.encode t := rfl
  -- the text ends before the file does
  have hroom : ¬(behind (past ++ Varint.encode (Utf8.size t)) (Utf8.encode t ++ rest)).size <
      (behind (past ++ Varint.encode (Utf8.size t)) (Utf8.encode t ++ rest)).position +
        Utf8.size t := by
    unfold behind Utf8.size
    simp only [List.length_append]
    omega
  unfold readText
  rw [hencode, List.append_assoc, hnumber]
  simp only [ok_bind]
  rw [if_neg hroom, hraw, ok_bind, Utf8.decode_encode, List.append_assoc]
  rfl

/-! ## Rows of numbers -/

/-- A distance leads from one number to the next. -/
theorem add_distance {previous id : Nat} (hp : previous < Record.wordBound)
    (hid : id < Record.wordBound) :
    (previous + (id + Record.wordBound - previous) % Record.wordBound) % Record.wordBound = id := by
  unfold Record.wordBound at hp hid ⊢
  omega

theorem readDistances_encode {ids : List Nat} {previous : Nat} (hp : previous < Record.wordBound)
    (h : ∀ id ∈ ids, id < Record.wordBound) :
    readDistances previous ids.length
        (behind past ((Record.distances previous ids).flatMap Varint.encode ++ rest)) =
      .ok (ids, behind (past ++ (Record.distances previous ids).flatMap Varint.encode) rest) := by
  induction ids generalizing previous past with
  | nil => rw [Record.distances, List.flatMap_nil, List.append_nil]; rfl
  | cons id ids ih =>
    have hid := h id List.mem_cons_self
    -- the distance to the next number, which may lie before
    obtain ⟨d, hd⟩ : ∃ d, d = (id + Record.wordBound - previous) % Record.wordBound := ⟨_, rfl⟩
    have hlt : d ≤ Count.largest := by
      have hmod : d < Record.wordBound := hd ▸ Nat.mod_lt _ (by decide)
      exact Nat.le_trans (Nat.le_of_lt hmod) (by decide)
    have hread := readVarint_encode past ((Record.distances id ids).flatMap Varint.encode ++ rest)
      hlt
    have hrest := ih (past ++ Varint.encode d) hid fun x hx => h x (List.mem_cons_of_mem id hx)
    rw [Record.distances, ← hd, List.flatMap_cons, List.append_assoc, List.length_cons,
      readDistances, hread]
    simp only [ok_bind]
    rw [hd, add_distance hp hid, ← hd, hrest, List.append_assoc]
    rfl

/-- **A row of numbers below 2³² there and back.** -/
theorem readPostings_encode {ids : List Nat} (hlen : ids.length ≤ Count.largest)
    (h : ∀ id ∈ ids, id < Record.wordBound) :
    (behind past (Record.encodePostings ids ++ rest)).readPostings =
      .ok (ids, behind (past ++ Record.encodePostings ids) rest) := by
  have hread := readVarint_encode past
    ((Record.distances 0 ids).flatMap Varint.encode ++ rest) hlen
  have hzero : 0 < Record.wordBound := by decide
  have hrest := readDistances_encode (past ++ Varint.encode ids.length) rest hzero h
  unfold readPostings Record.encodePostings
  rw [List.append_assoc, hread]
  simp only [ok_bind]
  rw [hrest, List.append_assoc]

/-! ## The end of a record -/

theorem value_lt (crc : Crc32) : crc.value < Record.wordBound := (~~~crc.register).isLt

/-- **The checksum of a record** is found at its end. -/
theorem verify_encode :
    ∃ r, (behind past (Record.encodeWord (Crc32.ofBytes past))).verify = .ok (true, r) := by
  have hword := readWord_encode past [] (value_lt (Crc32.start.update past))
  rw [List.append_nil] at hword
  -- the checksum is the last thing in the file
  have hplace : ¬(behind past (Record.encodeWord (Crc32.ofBytes past))).position + 4 ≠
      (behind past (Record.encodeWord (Crc32.ofBytes past))).size := by
    unfold behind
    simp [Record.encodeWord]
  unfold verify Crc32.ofBytes at *
  rw [if_neg hplace, hword]
  refine ⟨{ behind past (Record.encodeWord (Crc32.start.update past).value) with rest := [] }, ?_⟩
  simp only [ok_bind, behind, beq_self_eq_true]
  rfl

end Reader

end Kompositum

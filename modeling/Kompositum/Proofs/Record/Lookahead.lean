import Kompositum.Proofs.Record.Groups

/-!
# Looking for the end of a number

A reader goes through a file byte by byte and does not know where a number ends before it has come
to a byte without its high bit. It gives up at the eleventh byte. What it reads is nevertheless what
stands at the beginning of all the bytes that are left, and it goes past just the bytes of the
number.

* `Reader.looked`: the bytes that are looked at.
* `Reader.readVarint_eq_ok_iff`: which number is read, and where the reader comes to.
* `Reader.readVarint_congr`: nothing behind the eleventh byte matters.
* `Reader.readVarint_decodes`: reading from a file is reading from the bytes that are left.
-/

namespace Kompositum.Reader

open Varint (maxLength Whole)

/-! ## The bytes that are looked at -/

/-- The bytes of one number are found, if there may be so many. -/
theorem varintBytes?_whole {i m : Nat} {front : Bytes} {last : UInt8} (h : Whole i front last)
    (hm : front.length < m) (rest : Bytes) :
    varintBytes? m (front ++ last :: rest) = some (front ++ [last]) := by
  induction front generalizing i m with
  | nil =>
    obtain ⟨m, rfl⟩ := Nat.exists_eq_succ_of_ne_zero (Nat.ne_of_gt hm)
    rw [List.nil_append, varintBytes?, if_pos h.low]
    rfl
  | cons b front ih =>
    obtain ⟨hb, hwhole⟩ := Varint.whole_cons_iff.1 h
    rw [List.length_cons] at hm
    obtain ⟨m, rfl⟩ := Nat.exists_eq_succ_of_ne_zero (Nat.ne_of_gt (Nat.lt_of_le_of_lt
      (Nat.zero_le _) hm))
    have hrest := ih hwhole (Nat.lt_of_succ_lt_succ hm)
    rw [List.cons_append, varintBytes?, if_neg (UInt8.not_lt.2 hb), hrest]
    rfl

/-- There are no more bytes than may be looked at. -/
theorem length_le_of_varintBytes? {m : Nat} {rest bytes : Bytes}
    (h : varintBytes? m rest = some bytes) : bytes.length ≤ m := by
  induction m generalizing rest bytes with
  | zero =>
    cases h
    exact Nat.le_refl 0
  | succ m ih =>
    cases rest with
    | nil => cases h
    | cons b rest =>
      rw [varintBytes?] at h
      split at h
      · cases h
        exact Nat.succ_le_succ (Nat.zero_le m)
      · obtain ⟨tail, htail, rfl⟩ := Option.map_eq_some_iff.1 h
        exact Nat.succ_le_succ (ih htail)

/-- The file ends too early if it has fewer bytes than may be looked at. -/
theorem length_lt_of_varintBytes?_eq_none {m : Nat} {rest : Bytes}
    (h : varintBytes? m rest = none) : rest.length < m := by
  induction m generalizing rest with
  | zero => cases h
  | succ m ih =>
    cases rest with
    | nil => exact Nat.succ_pos m
    | cons b rest =>
      rw [varintBytes?] at h
      split at h
      · cases h
      · exact Nat.succ_lt_succ (ih (Option.map_eq_none_iff.1 h))

/-- Nothing behind the bytes that may be looked at matters. -/
theorem varintBytes?_take (m : Nat) (rest : Bytes) :
    varintBytes? m (rest.take m) = varintBytes? m rest := by
  induction m generalizing rest with
  | zero => rfl
  | succ m ih =>
    cases rest with
    | nil => rfl
    | cons b rest => rw [List.take_succ_cons, varintBytes?, varintBytes?, ih]

/-- **The bytes that are looked at for a number**: those up to the first one without its high bit,
or up to the end of the file, and one more at most than a number may have. -/
def looked (r : Reader) : Bytes := (varintBytes? (maxLength + 1) r.rest).getD r.rest

theorem looked_isPrefix (r : Reader) : r.looked <+: r.rest := by
  unfold looked
  cases h : varintBytes? (maxLength + 1) r.rest with
  | none => exact List.prefix_refl _
  | some bytes =>
    obtain ⟨left, hrest, -⟩ := varintBytes?_eq_some h
    exact ⟨left, hrest.symm⟩

/-- **No more than eleven bytes are looked at**, whether a number is found or not. -/
theorem length_looked_le (r : Reader) : r.looked.length ≤ maxLength + 1 := by
  unfold looked
  cases h : varintBytes? (maxLength + 1) r.rest with
  | none => exact Nat.le_of_lt (length_lt_of_varintBytes?_eq_none h)
  | some bytes => exact length_le_of_varintBytes? h

/-- **Nothing behind the eleventh byte matters**: the same number is read, or the same fault is
met. -/
theorem readVarint_congr {r s : Reader}
    (h : s.rest.take (maxLength + 1) = r.rest.take (maxLength + 1)) :
    s.readVarint.map Prod.fst = r.readVarint.map Prod.fst := by
  have hbytes : varintBytes? (maxLength + 1) s.rest = varintBytes? (maxLength + 1) r.rest := by
    rw [← varintBytes?_take, h, varintBytes?_take]
  unfold readVarint
  rw [hbytes]
  cases varintBytes? (maxLength + 1) r.rest with
  | none => rfl
  | some bytes =>
    dsimp only
    cases Varint.decode bytes with
    | error fault => rfl
    | ok p => rfl

/-! ## What is read -/

variable {front left : Bytes} {last : UInt8}

/-- Bytes cut behind one of them. -/
theorem cut_behind (front left : Bytes) (last : UInt8) :
    (front ++ last :: left).take (front.length + 1) = front ++ [last] ∧
      (front ++ last :: left).drop (front.length + 1) = left := by
  have hlen : (front ++ [last]).length = front.length + 1 := List.length_append
  rw [List.append_cons, ← hlen]
  exact ⟨List.take_left, List.drop_left⟩

/-- A whole number takes fewer bytes than may be looked at. -/
theorem looked_whole {r : Reader} (h : Whole 0 front last)
    (hrest : r.rest = front ++ last :: left) :
    varintBytes? (maxLength + 1) r.rest = some (front ++ [last]) ∧ r.looked = front ++ [last] := by
  have hroom : front.length < maxLength + 1 := by
    have hfew := h.few
    omega
  have hbytes : varintBytes? (maxLength + 1) r.rest = some (front ++ [last]) := by
    rw [hrest, varintBytes?_whole h hroom]
  refine ⟨hbytes, ?_⟩
  rw [looked, hbytes, Option.getD_some]

/-- **The bytes of one number** are read as this number, and the reader goes past just them. -/
theorem readVarint_whole {r : Reader} (h : Whole 0 front last)
    (hrest : r.rest = front ++ last :: left) :
    r.readVarint = .ok (Varint.ofGroups (front ++ [last]), r.after (front ++ [last]) left) := by
  have hdecode : Varint.decode (front ++ [last]) =
      .ok (Varint.ofGroups (front ++ [last]), front.length + 1) :=
    Varint.decode_eq_ok_iff.2 ⟨front, last, [], rfl, h, rfl, rfl⟩
  have hdrop : r.rest.drop (front ++ [last]).length = left := by
    rw [hrest, List.length_append]
    exact (cut_behind front left last).2
  unfold readVarint
  rw [(looked_whole h hrest).1]
  simp only [hdecode, hdrop]

/-- Where a number is read, there are the bytes of one. -/
theorem exists_whole_of_readVarint {r r' : Reader} {n : Nat} (h : r.readVarint = .ok (n, r')) :
    ∃ front last left, r.rest = front ++ last :: left ∧ Whole 0 front last := by
  unfold readVarint at h
  split at h
  · cases h
  · rename_i bytes hbytes
    obtain ⟨left, hrest, -⟩ := varintBytes?_eq_some hbytes
    split at h
    · cases h
    · rename_i m k hdecode
      obtain ⟨front, last, tail, rfl, hwhole, -, -⟩ := Varint.decode_eq_ok_iff.1 hdecode
      refine ⟨front, last, tail ++ left, ?_, hwhole⟩
      rw [hrest, List.append_assoc, List.cons_append]

/-- **A number is read** when the bytes that are left begin with one. Then just its bytes are looked
at, and the reader goes past them. -/
theorem readVarint_eq_ok_iff {r r' : Reader} {n : Nat} :
    r.readVarint = .ok (n, r') ↔
      ∃ k, Varint.decode r.rest = .ok (n, k) ∧ r.looked = r.rest.take k ∧
        r' = r.after (r.rest.take k) (r.rest.drop k) := by
  constructor
  · intro h
    obtain ⟨front, last, left, hrest, hwhole⟩ := exists_whole_of_readVarint h
    obtain ⟨htaken, hleft⟩ := cut_behind front left last
    rw [readVarint_whole hwhole hrest] at h
    obtain ⟨rfl, rfl⟩ := Prod.mk.inj (Except.ok.inj h)
    refine ⟨front.length + 1, ?_, ?_, ?_⟩
    · exact Varint.decode_eq_ok_iff.2 ⟨front, last, left, hrest, hwhole, rfl, rfl⟩
    · rw [(looked_whole hwhole hrest).2, hrest, htaken]
    · rw [hrest, htaken, hleft]
  · rintro ⟨k, hdecode, -, rfl⟩
    obtain ⟨front, last, left, hrest, hwhole, rfl, rfl⟩ := Varint.decode_eq_ok_iff.1 hdecode
    obtain ⟨htaken, hleft⟩ := cut_behind front left last
    rw [readVarint_whole hwhole hrest, hrest, htaken, hleft]

/-- **Reading a number from a file** is reading it from the bytes that are left: it succeeds when
this does, with the same number, and the reader, its position and its checksum go on by just the
bytes that the number takes. No more than eleven bytes are ever looked at, and nothing behind them
matters. -/
theorem readVarint_decodes (r : Reader) :
    (∀ n r', r.readVarint = .ok (n, r') ↔
      ∃ k, Varint.decode r.rest = .ok (n, k) ∧ r.looked = r.rest.take k ∧ k ≤ maxLength ∧
        r' = ⟨r.rest.drop k, r.position + k, r.crc.update (r.rest.take k), r.size⟩) ∧
      r.looked <+: r.rest ∧ r.looked.length ≤ 11 ∧
      ∀ s : Reader, s.rest.take 11 = r.rest.take 11 →
        s.readVarint.map Prod.fst = r.readVarint.map Prod.fst := by
  have hafter : ∀ k, k ≤ r.rest.length → r.after (r.rest.take k) (r.rest.drop k) =
      ⟨r.rest.drop k, r.position + k, r.crc.update (r.rest.take k), r.size⟩ := by
    intro k hk
    unfold after
    rw [List.length_take_of_le hk]
  refine ⟨fun n r' => ?_, looked_isPrefix r, length_looked_le r, fun s hs => readVarint_congr hs⟩
  rw [readVarint_eq_ok_iff]
  constructor
  · rintro ⟨k, hdecode, hlooked, rfl⟩
    obtain ⟨hlen, hfew⟩ := Varint.length_le_of_decode hdecode
    exact ⟨k, hdecode, hlooked, hfew, hafter k hlen⟩
  · rintro ⟨k, hdecode, hlooked, -, rfl⟩
    obtain ⟨hlen, -⟩ := Varint.length_le_of_decode hdecode
    exact ⟨k, hdecode, hlooked, (hafter k hlen).symm⟩

/-- The largest number in the middle of a file, and eleven bytes that begin with no number, whatever
follows them. -/
theorem readVarint_decodes_eleven :
    Varint.decode [255, 255, 255, 255, 255, 255, 255, 255, 255, 1, 7] = .ok (Count.largest, 10) ∧
      readVarint ⟨[255, 255, 255, 255, 255, 255, 255, 255, 255, 1, 7], 5, .start, 16⟩ =
        .ok (Count.largest, ⟨[7], 15,
          Crc32.start.update [255, 255, 255, 255, 255, 255, 255, 255, 255, 1], 16⟩) ∧
      ∀ rest, (ofBytes (List.replicate 11 128 ++ rest)).readVarint.map Prod.fst =
        .error (.varint .overflow) := by
  have hread : Varint.decode [255, 255, 255, 255, 255, 255, 255, 255, 255, 1, 7] =
      .ok (Count.largest, 10) := by decide
  refine ⟨hread, ?_, fun rest => ?_⟩
  · exact ((readVarint_decodes ⟨[255, 255, 255, 255, 255, 255, 255, 255, 255, 1, 7], 5, .start,
      16⟩).1 _ _).2 ⟨10, hread, by decide, by decide, rfl⟩
  · have hcut : (List.replicate 11 128 ++ rest).take 11 = (List.replicate 11 128).take 11 :=
      List.take_append_of_le_length (by decide)
    have hsame := (readVarint_decodes (ofBytes (List.replicate 11 128))).2.2.2
      (ofBytes (List.replicate 11 128 ++ rest)) hcut
    rw [hsame]
    rfl

end Kompositum.Reader

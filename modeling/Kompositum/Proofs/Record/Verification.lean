import Kompositum.Proofs.Record.Spelling

/-!
# What has been read so far

A reader keeps the number of the bytes that it has gone past and their checksum. Whatever values it
reads, and however the bytes are divided among them, these are the bytes between the beginning of
the file and the place that it has come to. So what it says of the checksum depends on this place
alone.

* `Reader.HasRead`: a reader that has gone past the first bytes of a file.
* `Reader.HasRead.read`, `Reader.HasRead.readAll`: it stays one through every read.
* `Reader.verify_afterReads`: what it says of the checksum.
-/

namespace Kompositum.Reader

/-- **A reader that has gone past the first bytes of a file**, and keeps their number and their
checksum. -/
structure HasRead (bytes past : Bytes) (r : Reader) : Prop where
  bytes_eq : bytes = past ++ r.rest
  position_eq : r.position = past.length
  crc_eq : r.crc = Crc32.start.update past
  size_eq : r.size = bytes.length

variable {bytes past taken : Bytes} {r r' : Reader}

theorem hasRead_ofBytes (bytes : Bytes) : HasRead bytes [] (ofBytes bytes) := ⟨rfl, rfl, rfl, rfl⟩

theorem HasRead.eq_behind (h : HasRead bytes past r) : r = behind past r.rest := by
  have hsize : r.size = (past ++ r.rest).length := by rw [← h.bytes_eq, h.size_eq]
  rw [behind, ← hsize, ← h.crc_eq, ← h.position_eq]

/-- **Two readers of a file at the same position** are the same. -/
theorem HasRead.eq_of_position_eq {past' : Bytes} (h : HasRead bytes past r)
    (h' : HasRead bytes past' r') (hpos : r'.position = r.position) : r' = r := by
  have hlen : past'.length = past.length := by rw [← h'.position_eq, hpos, h.position_eq]
  have hsame : past' ++ r'.rest = past ++ r.rest := by rw [← h'.bytes_eq, h.bytes_eq]
  obtain ⟨hpast, hrest⟩ := List.append_inj hsame hlen
  rw [h'.eq_behind, h.eq_behind, hpast, hrest]

/-! ## Reading -/

theorem HasRead.goes (h : HasRead bytes past r) (hgoes : r.Goes taken r') :
    HasRead bytes (past ++ taken) r' := by
  have hplace := hgoes.place
  refine ⟨?_, ?_, ?_, ?_⟩
  · rw [h.bytes_eq, hgoes.rest, List.append_assoc]
  · rw [hplace, List.length_append, ← h.position_eq]
    rfl
  · rw [hplace, after, h.crc_eq]
    unfold Crc32.update
    rw [List.foldl_append]
  · rw [hplace, ← h.size_eq]
    rfl

/-- **One read** goes past the bytes that spell its value. -/
theorem HasRead.read (h : HasRead bytes past r) {kind : FieldKind} {field : Field}
    (hread : r.read kind = .ok (field, r')) :
    ∃ taken, HasRead bytes (past ++ taken) r' ∧ Field.Spells taken field := by
  obtain ⟨taken, hgoes, hspelled⟩ := sound_read kind r field r' hread
  exact ⟨taken, h.goes hgoes, hspelled⟩

/-- **A row of reads** goes past the bytes that spell its values. -/
theorem HasRead.readAll (h : HasRead bytes past r) {kinds : List FieldKind} {fields : List Field}
    (hread : r.readAll kinds = .ok (fields, r')) :
    ∃ taken, HasRead bytes (past ++ taken) r' ∧ Record.Spells taken fields := by
  induction kinds generalizing past r fields with
  | nil =>
    obtain ⟨rfl, rfl⟩ := Prod.mk.inj (Except.ok.inj hread)
    refine ⟨[], ?_, .nil⟩
    rwa [List.append_nil]
  | cons kind kinds ih =>
    obtain ⟨⟨field, r₁⟩, hfirst, hmore⟩ := bind_eq_ok.1 hread
    obtain ⟨⟨rest, r₂⟩, hrest, hall⟩ := bind_eq_ok.1 hmore
    obtain ⟨rfl, rfl⟩ := Prod.mk.inj (Except.ok.inj hall)
    obtain ⟨taken, hhere, hfield⟩ := h.read hfirst
    obtain ⟨taken', hthere, hfields⟩ := ih hhere hrest
    refine ⟨taken ++ taken', ?_, .cons hfield hfields⟩
    rwa [← List.append_assoc]

/-! ## The checksum -/

/-- **What a reader says of the checksum**, by the four bytes that are left. -/
theorem HasRead.verify_eq (h : HasRead bytes past r) :
    r.verify =
      if r.rest.length = 4 then
        .ok (decide (r.rest = Record.encodeWord (Crc32.ofBytes past)), { r with rest := [] })
      else .error (.misplacedChecksum r.position bytes.length) := by
  have hverify := verify_behind past r.rest
  rwa [← h.eq_behind, ← h.bytes_eq, ← h.position_eq] at hverify

/-- The checksum is found right or wrong where four bytes are left. -/
theorem HasRead.verify_eq_ok_iff (h : HasRead bytes past r) {b : Bool} :
    (∃ r', r.verify = .ok (b, r')) ↔
      r.rest.length = 4 ∧ decide (r.rest = Record.encodeWord (Crc32.ofBytes past)) = b := by
  rw [h.verify_eq]
  by_cases hlen : r.rest.length = 4
  · rw [if_pos hlen, and_iff_right hlen]
    constructor
    · rintro ⟨r', hr'⟩
      exact (Prod.mk.inj (Except.ok.inj hr')).1
    · rintro rfl
      exact ⟨_, rfl⟩
  · rw [if_neg hlen]
    constructor
    · rintro ⟨r', hr'⟩
      cases hr'
    · rintro ⟨hlen', -⟩
      exact absurd hlen' hlen

/-- Elsewhere the checksum is out of place. -/
theorem HasRead.verify_eq_error_iff (h : HasRead bytes past r) :
    r.verify = .error (.misplacedChecksum past.length bytes.length) ↔ r.rest.length ≠ 4 := by
  rw [h.verify_eq, ← h.position_eq]
  by_cases hlen : r.rest.length = 4
  · simp [hlen]
  · simp [hlen]

/-- **After any row of reads** a reader has gone past the bytes that spell the values, and keeps
their number and their checksum. The checksum of the file is right where four bytes are left that
are the checksum of all bytes before them, wrong where four other bytes are left, and out of place
elsewhere. How the bytes have been divided among the values does not matter. -/
theorem verify_afterReads {kinds : List FieldKind} {fields : List Field}
    (h : (ofBytes bytes).readAll kinds = .ok (fields, r)) :
    ∃ past, HasRead bytes past r ∧ Record.Spells past fields ∧
      ((∃ r', r.verify = .ok (true, r')) ↔
        r.rest.length = 4 ∧ r.rest = Record.encodeWord (Crc32.ofBytes past)) ∧
      ((∃ r', r.verify = .ok (false, r')) ↔
        r.rest.length = 4 ∧ r.rest ≠ Record.encodeWord (Crc32.ofBytes past)) ∧
      (r.verify = .error (.misplacedChecksum past.length bytes.length) ↔ r.rest.length ≠ 4) ∧
      ∀ kinds' fields' r', (ofBytes bytes).readAll kinds' = .ok (fields', r') →
        r'.position = r.position → r' = r := by
  obtain ⟨past, hpast, hspelled⟩ := (hasRead_ofBytes bytes).readAll h
  rw [List.nil_append] at hpast
  refine ⟨past, hpast, hspelled, ?_, ?_, hpast.verify_eq_error_iff, ?_⟩
  · rw [hpast.verify_eq_ok_iff, decide_eq_true_iff]
  · rw [hpast.verify_eq_ok_iff, decide_eq_false_iff_not]
  · intro kinds' fields' r' h' hpos
    obtain ⟨past', hpast', -⟩ := (hasRead_ofBytes bytes).readAll h'
    exact hpast.eq_of_position_eq hpast' hpos

/-- A text whose checksum has been lost, read as a text and byte by byte. -/
theorem verify_afterReads_lost :
    ∃ r, (ofBytes [1, 97, 0, 0, 0, 0]).readAll [.text] = .ok ([.text "a"], r) ∧
      (ofBytes [1, 97, 0, 0, 0, 0]).readAll [.raw 1, .raw 1] = .ok ([.raw [1], .raw [97]], r) ∧
      ∃ r', r.verify = .ok (false, r') := by
  have htext : (ofBytes [1, 97, 0, 0, 0, 0]).readAll [.text] =
      .ok ([.text "a"], behind [1, 97] [0, 0, 0, 0]) := rfl
  have hraw : (ofBytes [1, 97, 0, 0, 0, 0]).readAll [.raw 1, .raw 1] =
      .ok ([.raw [1], .raw [97]], behind [1, 97] [0, 0, 0, 0]) := rfl
  obtain ⟨past, hpast, -, -, hwrong, -⟩ := verify_afterReads htext
  have hbytes : [1, 97] = past := (List.append_inj hpast.bytes_eq hpast.position_eq).1
  subst hbytes
  exact ⟨_, htext, hraw, hwrong.2 ⟨rfl, by decide +kernel⟩⟩

end Kompositum.Reader

import Kompositum.Proofs.Outcome
import Kompositum.Proofs.Record.Reader

/-!
# Reading straight on

A reader goes through a file from its beginning and takes every byte into its checksum. What it
reads depends on the bytes that it reads, and on nothing behind them, except that a text has to
end before the file does.

* `Reader.Streams`: reading that goes straight on.
* `Reader.Streams.bind`: two values one after the other.
* `Reader.streams_readText`, `Reader.streams_readPostings` and their like: all values are read so.
* `Reader.verify_eq_true_iff`: where the checksum is found.
-/

namespace Kompositum

namespace Reader

variable {ε α β : Type}

/-- **Reading that goes straight on**: if it succeeds, what it has read stands right behind the
place where it began, the checksum is carried on over exactly these bytes, and with more bytes at
the end of the file the result would be the same. -/
def Streams (f : Reader → Except ε (α × Reader)) : Prop :=
  ∀ past rest a r, f (behind past rest) = .ok (a, r) →
    ∃ taken left, rest = taken ++ left ∧ r = behind (past ++ taken) left ∧
      ∀ more, f (behind past (rest ++ more)) = .ok (a, behind (past ++ taken) (left ++ more))

/-! ## Putting it together -/

/-- Nothing is read. -/
theorem streams_pure (a : α) : Streams fun r => (.ok (a, r) : Except ε (α × Reader)) := by
  intro past rest a' r h
  obtain ⟨rfl, rfl⟩ := Prod.mk.inj (Except.ok.inj h)
  exact ⟨[], rest, rfl, by rw [List.append_nil], fun more => by rw [List.append_nil]⟩

theorem streams_error (e : ε) : Streams fun _ => (.error e : Except ε (α × Reader)) :=
  fun _ _ _ _ h => by cases h

/-- **Two values**, the second one right behind the first. -/
theorem Streams.bind {f : Reader → Except ε (α × Reader)} {g : α → Reader → Except ε (β × Reader)}
    (hf : Streams f) (hg : ∀ a, Streams (g a)) : Streams fun r => f r >>= fun p => g p.1 p.2 := by
  intro past rest b r h
  obtain ⟨⟨a, r₁⟩, hfirst, hsecond⟩ := bind_eq_ok.1 h
  obtain ⟨taken, left, rfl, rfl, hmore⟩ := hf past rest a r₁ hfirst
  obtain ⟨taken', left', rfl, rfl, hmore'⟩ := hg a _ _ b r hsecond
  refine ⟨taken ++ taken', left', by rw [List.append_assoc], by rw [List.append_assoc],
    fun more => ?_⟩
  change (f _ >>= fun p => g p.1 p.2) = _
  rw [hmore more, ok_bind, ← List.append_assoc past]
  exact hmore' more

/-- A check of what has been read. -/
theorem Streams.unless {f : Reader → Except ε (α × Reader)} (hf : Streams f) (c : Prop)
    [Decidable c] (e : ε) : Streams fun r => if c then .error e else f r := by
  by_cases hc : c
  · simpa only [if_pos hc] using streams_error e
  · simpa only [if_neg hc] using hf

/-- **A place in a file**, where its bytes up to there have been read. -/
def PlaceIn (bytes : Bytes) (r : Reader) : Prop :=
  ∃ past rest, bytes = past ++ rest ∧ r = behind past rest

theorem placeIn_ofBytes (bytes : Bytes) : PlaceIn bytes (ofBytes bytes) := ⟨[], bytes, rfl, rfl⟩

/-- Reading stays in the file. -/
theorem Streams.placeIn {f : Reader → Except ε (α × Reader)} (hf : Streams f) {bytes : Bytes}
    {r r' : Reader} {a : α} (hr : PlaceIn bytes r) (h : f r = .ok (a, r')) : PlaceIn bytes r' := by
  obtain ⟨past, rest, rfl, rfl⟩ := hr
  obtain ⟨taken, left, rfl, rfl, -⟩ := hf past rest a r' h
  exact ⟨past ++ taken, left, by rw [List.append_assoc], rfl⟩

/-- **A value that has to end before the file does.** In a larger file there is more room. -/
theorem Streams.within {f : Reader → Except ε (α × Reader)} (hf : Streams f) (n : Nat)
    (e : Reader → ε) :
    Streams fun r => if r.size < r.position + n then .error (e r) else f r := by
  intro past rest a r h
  by_cases hroom : (behind past rest).size < (behind past rest).position + n
  · simp only [if_pos hroom] at h
    cases h
  · simp only [if_neg hroom] at h
    obtain ⟨taken, left, hrest, hr, hmore⟩ := hf past rest a r h
    refine ⟨taken, left, hrest, hr, fun more => ?_⟩
    have hroom' : ¬(behind past (rest ++ more)).size < (behind past (rest ++ more)).position + n := by
      unfold behind at hroom ⊢
      simp only [List.length_append] at hroom ⊢
      omega
    simp only [if_neg hroom']
    exact hmore more

/-! ## Values -/

theorem streams_readRaw (n : Nat) : Streams (readRaw n) := by
  intro past rest bytes r h
  have hraw : readRaw n (behind past rest) =
      if (rest.take n).length < n then .error .ended
      else .ok (rest.take n, (behind past rest).after (rest.take n) (rest.drop n)) := rfl
  rw [hraw] at h
  split at h
  · cases h
  · rename_i hlen
    obtain ⟨rfl, rfl⟩ := Prod.mk.inj (Except.ok.inj h)
    have htaken : (rest.take n).length = n := by
      have := List.length_take_le n rest
      omega
    have hread (left : Bytes) : readRaw n (behind past (rest.take n ++ left)) =
        .ok (rest.take n, behind (past ++ rest.take n) left) := by
      have hraw := readRaw_append past left (rest.take n)
      rwa [htaken] at hraw
    refine ⟨rest.take n, rest.drop n, (List.take_append_drop n rest).symm, ?_, fun more => ?_⟩
    · rw [← after_behind, List.take_append_drop]
    · rw [← hread, ← List.append_assoc, List.take_append_drop]

theorem streams_readWord : Streams readWord :=
  (streams_readRaw 4).bind fun bytes => streams_pure (wordOf bytes)

/-- The bytes of a number stand at the beginning, whatever follows them. -/
theorem varintBytes?_eq_some {n : Nat} {rest bytes : Bytes} (h : varintBytes? n rest = some bytes) :
    ∃ left, rest = bytes ++ left ∧ ∀ more, varintBytes? n (rest ++ more) = some bytes := by
  induction n generalizing rest bytes with
  | zero =>
    cases h
    exact ⟨rest, rfl, fun more => rfl⟩
  | succ n ih =>
    cases rest with
    | nil => cases h
    | cons b rest =>
      simp only [List.cons_append, varintBytes?] at h ⊢
      by_cases hb : b < 128
      · simp only [if_pos hb] at h ⊢
        cases h
        exact ⟨rest, rfl, fun more => rfl⟩
      · simp only [if_neg hb] at h ⊢
        obtain ⟨tail, htail, rfl⟩ := Option.map_eq_some_iff.1 h
        obtain ⟨left, rfl, hmore⟩ := ih htail
        exact ⟨left, rfl, fun more => by rw [hmore more]; rfl⟩

theorem streams_readVarint : Streams readVarint := by
  intro past rest n r h
  unfold readVarint at h
  rw [rest_behind] at h
  split at h
  · cases h
  · rename_i bytes hbytes
    obtain ⟨left, rfl, hmore⟩ := varintBytes?_eq_some hbytes
    split at h
    · cases h
    · rename_i m k hdecode
      obtain ⟨rfl, rfl⟩ := Prod.mk.inj (Except.ok.inj h)
      refine ⟨bytes, left, rfl, ?_, fun more => ?_⟩
      · rw [List.drop_left, after_behind]
      · unfold readVarint
        rw [rest_behind, hmore more]
        simp only [hdecode]
        rw [List.append_assoc, List.drop_left, after_behind]

/-- The text of some bytes. -/
theorem streams_decoded (bytes : Bytes) : Streams fun r =>
    match Utf8.decode bytes with
    | .ok t => (return (t, r) : Except ReadFault (Text × Reader))
    | .error fault => .error (.utf8 fault) := by
  cases Utf8.decode bytes with
  | ok t => exact streams_pure t
  | error fault => exact streams_error _

theorem streams_readText : Streams readText :=
  streams_readVarint.bind fun n =>
    ((streams_readRaw n).bind streams_decoded).within n fun r =>
      if Count.largest < r.position + n then .unaddressable n else .textTooLong n

theorem streams_readDistances (previous n : Nat) : Streams (readDistances previous n) := by
  induction n generalizing previous with
  | zero => exact streams_pure []
  | succ n ih =>
    exact streams_readVarint.bind fun d =>
      (ih ((previous + d) % Record.wordBound)).bind fun ids =>
        streams_pure ((previous + d) % Record.wordBound :: ids)

theorem streams_readPostings : Streams readPostings :=
  streams_readVarint.bind fun n => streams_readDistances 0 n

/-! ## The end of a record -/

/-- **Four bytes** are those of the number that they hold. -/
theorem encodeWord_wordOf {bytes : Bytes} (h : bytes.length = 4) :
    Record.encodeWord (wordOf bytes) = bytes := by
  match bytes, h with
  | [a, b, c, d], _ =>
    have ha := a.toNat_lt
    have hb := b.toNat_lt
    have hc := c.toNat_lt
    have hd := d.toNat_lt
    have hbyte (x : UInt8) (n : Nat) (hn : n % 256 = x.toNat) : n.toUInt8 = x := by
      rw [← UInt8.toNat_inj, Nat.toUInt8, UInt8.toNat_ofNat', hn]
    unfold Record.encodeWord wordOf
    simp only [List.foldr_cons, List.foldr_nil]
    rw [hbyte a _ (by omega), hbyte b _ (by omega), hbyte c _ (by omega), hbyte d _ (by omega)]

/-- Four bytes hold the number of the bytes that it is written in. -/
theorem wordOf_eq_iff {bytes : Bytes} (h : bytes.length = 4) {n : Nat} (hn : n < Record.wordBound) :
    wordOf bytes = n ↔ bytes = Record.encodeWord n := by
  constructor
  · rintro rfl
    exact (encodeWord_wordOf h).symm
  · rintro rfl
    exact wordOf_encodeWord hn

/-- **The end of a record**: where four bytes are left, they are compared with the checksum of what
has been read, and elsewhere there is no checksum. -/
theorem verify_behind (past rest : Bytes) :
    (behind past rest).verify =
      if rest.length = 4 then
        .ok (decide (rest = Record.encodeWord (Crc32.ofBytes past)),
          { behind past rest with rest := [] })
      else .error (.misplacedChecksum past.length (past ++ rest).length) := by
  have hplace : (behind past rest).position + 4 ≠ (behind past rest).size ↔ ¬rest.length = 4 := by
    unfold behind
    simp only [List.length_append]
    omega
  unfold verify
  simp only [hplace, ite_not]
  split
  · rename_i hlen
    have hraw := readRaw_append past [] rest
    rw [List.append_nil, hlen] at hraw
    have hword : (behind past rest).readWord = .ok (wordOf rest, behind (past ++ rest) []) := by
      unfold readWord
      rw [hraw]
      rfl
    have hsame : (wordOf rest == (behind past rest).crc.value) =
        decide (rest = Record.encodeWord (Crc32.ofBytes past)) := by
      rw [Bool.eq_iff_iff, beq_iff_eq, decide_eq_true_iff]
      exact wordOf_eq_iff hlen (value_lt _)
    rw [hword, ok_bind, hsame]
    rfl
  · rfl

/-- **A checksum is found** where it is the last thing in the file. -/
theorem verify_eq_true_iff {past rest : Bytes} :
    (∃ r, (behind past rest).verify = .ok (true, r)) ↔
      rest = Record.encodeWord (Crc32.ofBytes past) := by
  refine ⟨fun ⟨r, h⟩ => ?_, fun h => h ▸ verify_encode past⟩
  rw [verify_behind] at h
  split at h
  · exact of_decide_eq_true (Prod.mk.inj (Except.ok.inj h)).1
  · cases h

end Reader

end Kompositum

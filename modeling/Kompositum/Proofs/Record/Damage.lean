import Kompositum.Proofs.Record.Crc32
import Kompositum.Proofs.Record.Streaming

/-!
# Damaged records

A file that has been read up to its checksum is intact: its last four bytes are the checksum of all
bytes before them. After a single byte has been changed this is no longer so; and since reading
goes straight on, a file that has lost its end, or has more behind it, has no checksum where
reading comes to.

* `Record.sealed_set_inj`: a byte in place of another one is noticed.
* `Damaged`: what may happen to a file.
* `Reader.Streams.not_intact`: a damaged file is not intact.
-/

namespace Kompositum

/-! ## A byte in place of another one -/

namespace Record

/-- Bytes with their checksum behind them. -/
def sealed (body : Bytes) : Bytes := body ++ encodeWord (Crc32.ofBytes body)

theorem length_sealed (body : Bytes) : (sealed body).length = body.length + 4 := by
  unfold sealed
  rw [List.length_append]
  rfl

theorem encodeWord_inj {m n : Nat} (hm : m < wordBound) (hn : n < wordBound)
    (h : encodeWord m = encodeWord n) : m = n := by
  rw [← Reader.wordOf_encodeWord hm, h, Reader.wordOf_encodeWord hn]

/-- **A byte in place of another one**, wherever it stands, leaves no file with its checksum but
the one that there was. -/
theorem sealed_set_inj {body body' : Bytes} {i : Nat} {b : UInt8}
    (h : sealed body' = (sealed body).set i b) : body' = body := by
  have hlen : body'.length = body.length := by
    have hall := congrArg List.length h
    rw [List.length_set, length_sealed, length_sealed] at hall
    omega
  unfold sealed at h
  rw [List.set_append] at h
  split at h
  · -- the byte stands before the checksum, which is the same as it was
    obtain ⟨rfl, hsum⟩ := List.append_inj h (hlen.trans List.length_set.symm)
    have heq := encodeWord_inj (Reader.value_lt _) (Reader.value_lt _) hsum
    exact Crc32.ofBytes_set_inj.1 heq
  · exact (List.append_inj h hlen).1

end Record

/-! ## Damage -/

/-- **What may happen to a file**: a byte is replaced by another one, the end is lost, or something
is added behind it. -/
inductive Damaged (bytes : Bytes) : Bytes → Prop
  | replaced (i : Nat) (b : UInt8) (hi : i < bytes.length) (hb : b ≠ bytes[i]) :
    Damaged bytes (bytes.set i b)
  | cut (n : Nat) (hn : n < bytes.length) : Damaged bytes (bytes.take n)
  | extended (more : Bytes) (hmore : more ≠ []) : Damaged bytes (bytes ++ more)

namespace Reader

variable {ε α : Type} {f : Reader → Except ε (α × Reader)} {bytes bytes' : Bytes}

/-- **A file that is read up to its checksum**, which is the right one. -/
def Intact (f : Reader → Except ε (α × Reader)) (bytes : Bytes) : Prop :=
  ∃ a r r', f (ofBytes bytes) = .ok (a, r) ∧ r.verify = .ok (true, r')

/-- **An intact file** ends with the checksum of everything before it. -/
theorem Streams.eq_sealed (hf : Streams f) (h : Intact f bytes) :
    ∃ body, bytes = Record.sealed body ∧ ∃ a, ∀ more, f (ofBytes (bytes ++ more)) =
      .ok (a, behind body (Record.encodeWord (Crc32.ofBytes body) ++ more)) := by
  obtain ⟨a, r, r', hread, hverify⟩ := h
  obtain ⟨body, left, rfl, rfl, hmore⟩ := hf [] bytes a r hread
  obtain rfl := verify_eq_true_iff.1 ⟨r', hverify⟩
  exact ⟨body, rfl, a, hmore⟩

/-- **No intact file goes on** behind another one. -/
theorem Streams.eq_nil_of_intact_append (hf : Streams f) {more : Bytes} (h : Intact f bytes)
    (h' : Intact f (bytes ++ more)) : more = [] := by
  obtain ⟨body, -, a, hread⟩ := hf.eq_sealed h
  obtain ⟨body', -, a', hread'⟩ := hf.eq_sealed h'
  -- the longer file is read like the shorter one
  have hsame := hread' []
  rw [List.append_nil, hread more] at hsame
  obtain ⟨-, hbehind⟩ := Prod.mk.inj (Except.ok.inj hsame)
  have hleft := congrArg (fun r => r.rest.length) hbehind
  simp only [rest_behind, List.length_append, List.append_nil] at hleft
  have hword (n : Nat) : (Record.encodeWord n).length = 4 := rfl
  rw [hword, hword] at hleft
  exact List.eq_nil_of_length_eq_zero (by omega)

/-- **A damaged file is not intact.** -/
theorem Streams.not_intact (hf : Streams f) (h : Intact f bytes) (hd : Damaged bytes bytes') :
    ¬Intact f bytes' := by
  intro h'
  cases hd with
  | replaced i b hi hb =>
    obtain ⟨body, hbody, -⟩ := hf.eq_sealed h
    obtain ⟨body', hbody', -⟩ := hf.eq_sealed h'
    have hseal : Record.sealed body' = (Record.sealed body).set i b := by rw [← hbody, hbody']
    obtain rfl := Record.sealed_set_inj hseal
    -- then nothing has been replaced
    have hget := List.getElem?_set_self (a := b) hi
    rw [hbody', ← hbody, List.getElem?_eq_getElem hi] at hget
    exact hb (Option.some.inj hget).symm
  | cut n hn =>
    have hwhole : Intact f (bytes.take n ++ bytes.drop n) := by rwa [List.take_append_drop]
    have hnil := hf.eq_nil_of_intact_append h' hwhole
    rw [List.drop_eq_nil_iff] at hnil
    omega
  | extended more hmore => exact hmore (hf.eq_nil_of_intact_append h h')

end Reader

end Kompositum

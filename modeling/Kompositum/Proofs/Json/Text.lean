import Kompositum.Json.Parser
import Kompositum.Json.Printer
import Kompositum.Proofs.Text.Utf8

/-!
# Texts in JSON

A text between quotation marks is read as it was written: the characters that need an escape are
written with one, and all others stand for themselves.

* `Json.textBody_escapedChar`: one character there and back.
* `Json.textBody_quoted`: a text there and back.
-/

namespace Kompositum.Json

variable {done bytes rest : Bytes} {whole : Bool} {c : Char}

/-! ## Bytes that stand for themselves -/

/-- **A byte that stands for itself** in a text. -/
def IsVerbatim (b : UInt8) : Prop := b ≠ code '"' ∧ b ≠ code '\\' ∧ 32 ≤ b.toNat

theorem textBody_verbatim (h : ∀ b ∈ bytes, IsVerbatim b) (done : Bytes) :
    textBody done whole (bytes ++ rest) = textBody (bytes.reverse ++ done) whole rest := by
  induction bytes generalizing done with
  | nil => rfl
  | cons b bytes ih =>
    obtain ⟨hquote, hslash, hlow⟩ := h b List.mem_cons_self
    have hnot : ¬b < 32 := fun hlt => absurd (UInt8.lt_iff_toNat_lt.1 hlt) (Nat.not_lt.2 hlow)
    have hrest := ih (fun d hd => h d (List.mem_cons_of_mem b hd)) (b :: done)
    rw [List.cons_append, textBody, if_neg (by simpa using hquote), if_neg (by simpa using hslash),
      if_neg hnot, hrest, List.reverse_cons, List.append_assoc, List.singleton_append]

/-- The bytes of a character are its code point, or lie beyond ASCII. -/
theorem toNat_of_mem_encodeChar {b : UInt8} (h : b ∈ Utf8.encodeChar c) :
    b.toNat = c.toNat ∨ 0x80 ≤ b.toNat := by
  have hc := Utf8.toNat_lt c
  have htail (m : Nat) : 0x80 ≤ (Utf8.tail m).toNat := by
    rw [Utf8.toNat_tail]
    exact Nat.le_add_right _ _
  rw [Utf8.encodeChar_eq] at h
  split at h
  · rw [List.mem_singleton] at h
    rw [h]
    exact .inl (Utf8.toNat_toUInt8 (by omega))
  · right
    split at h
    · rcases List.mem_cons.1 h with rfl | h
      · rw [Utf8.toNat_toUInt8 (by omega)]
        omega
      · rw [List.mem_singleton.1 h]
        exact htail _
    · split at h
      · rcases List.mem_cons.1 h with rfl | h
        · rw [Utf8.toNat_toUInt8 (by omega)]
          omega
        · simp only [List.mem_cons, List.not_mem_nil, or_false] at h
          rcases h with rfl | rfl <;> exact htail _
      · rcases List.mem_cons.1 h with rfl | h
        · rw [Utf8.toNat_toUInt8 (by omega)]
          omega
        · simp only [List.mem_cons, List.not_mem_nil, or_false] at h
          rcases h with rfl | rfl | rfl <;> exact htail _

/-- A character that needs no escape stands for itself. -/
theorem isVerbatim_of_mem_encodeChar (hquote : c ≠ '"') (hslash : c ≠ '\\') (hlow : 32 ≤ c.toNat) :
    ∀ b ∈ Utf8.encodeChar c, IsVerbatim b := by
  intro b hb
  have hne {d : Char} (hd : c ≠ d) (hascii : (code d).toNat = d.toNat) (h80 : d.toNat < 0x80) :
      b ≠ code d := by
    rintro rfl
    rcases toNat_of_mem_encodeChar hb with heq | hle
    · exact hd (Char.toNat_inj.1 (heq.symm.trans hascii))
    · omega
  refine ⟨hne hquote rfl (by decide), hne hslash rfl (by decide), ?_⟩
  rcases toNat_of_mem_encodeChar hb with heq | hle <;> omega

/-! ## Escapes -/

theorem textBody_escape (h : escape? bytes = some (some c, rest)) :
    textBody done whole (code '\\' :: bytes) = textBody (pushChar c done) whole rest := by
  have hquote : ¬(code '\\' == code '"') = true := by decide
  rw [textBody, if_neg hquote, if_pos (beq_self_eq_true _)]
  split
  · rename_i hnone
    rw [h] at hnone
    cases hnone
  · rename_i d more hsome
    rw [h] at hsome
    cases hsome
    rfl
  · rename_i more hhalf
    rw [h] at hhalf
    cases hhalf

/-- A hexadecimal digit there and back. -/
theorem hexDigit?_digitChar : ∀ d < 16,
    Utf8.encodeChar (Nat.digitChar d) = [code (Nat.digitChar d)] ∧
      hexDigit? (code (Nat.digitChar d)) = some d := by decide

/-- A control character is written with its code point. -/
theorem escape?_control (h : c.toNat < 32) :
    escape? (Utf8.encode ['u', '0', '0', Nat.digitChar (c.toNat / 16), Nat.digitChar (c.toNat % 16)]
      ++ rest) = some (some c, rest) := by
  obtain ⟨hhigh, hhigh'⟩ := hexDigit?_digitChar (c.toNat / 16) (by omega)
  obtain ⟨hlow, hlow'⟩ := hexDigit?_digitChar (c.toNat % 16) (by omega)
  have hnumber : hexNumber? [code '0', code '0', code (Nat.digitChar (c.toNat / 16)),
      code (Nat.digitChar (c.toNat % 16))] = some c.toNat := by
    have hzero : hexDigit? (code '0') = some 0 := by decide
    unfold hexNumber?
    simp only [List.foldlM_cons, List.foldlM_nil, hzero, hhigh', hlow', Option.map_some,
      Option.bind_eq_bind, Option.bind_some, Option.pure_def]
    congr 1
    omega
  have hbytes : Utf8.encode ['u', '0', '0', Nat.digitChar (c.toNat / 16),
      Nat.digitChar (c.toNat % 16)] = [code 'u', code '0', code '0',
        code (Nat.digitChar (c.toNat / 16)), code (Nat.digitChar (c.toNat % 16))] := by
    simp only [Utf8.encode_cons, hhigh, hlow]
    rfl
  have hletter : letterEscape? (code 'u') = none := by decide
  have hhalf : isHighHalf c.toNat = false ∧ isLowHalf c.toNat = false := by
    constructor
    · simp [isHighHalf]
      omega
    · simp [isLowHalf]
      omega
  rw [hbytes]
  simp only [List.cons_append, List.nil_append, escape?, hletter, bne_self_eq_false,
    Bool.false_eq_true, if_false, hexUnit?, hnumber, Option.map_some, Option.bind_eq_bind,
    Option.bind_some, hhalf.1, hhalf.2, Char.ofNat_toNat]

/-- **One character** is read as it was written. -/
theorem textBody_escapedChar (c : Char) (done rest : Bytes) :
    textBody done whole (Utf8.encode (escapedChar c) ++ rest) =
      textBody (pushChar c done) whole rest := by
  unfold escapedChar
  split
  case h_8 hquote hslash _ _ _ _ _ =>
    split
    · rename_i hlow
      exact textBody_escape (escape?_control hlow)
    · rename_i hlow
      have hverbatim := isVerbatim_of_mem_encodeChar hquote hslash (Nat.not_lt.1 hlow)
      rw [Utf8.encode_cons, Utf8.encode, List.flatMap_nil, List.append_nil]
      exact textBody_verbatim hverbatim done
  all_goals exact textBody_escape rfl

/-! ## A text -/

theorem textBody_flatMap_escapedChar (t : Text) (done rest : Bytes) :
    textBody done whole (Utf8.encode (t.flatMap escapedChar) ++ rest) =
      textBody ((Utf8.encode t).reverse ++ done) whole rest := by
  induction t generalizing done with
  | nil => rfl
  | cons c t ih =>
    rw [List.flatMap_cons, Utf8.encode_append, List.append_assoc, textBody_escapedChar, ih,
      Utf8.encode_cons, List.reverse_append, List.append_assoc, pushChar]

/-- **A text** is read as it was written. -/
theorem textBody_quoted (t : Text) (rest : Bytes) :
    textBody [] true (Utf8.encode (t.flatMap escapedChar) ++ code '"' :: rest) =
      some (some t, rest) := by
  rw [textBody_flatMap_escapedChar, textBody, if_pos (beq_self_eq_true _), if_pos rfl,
    List.append_nil, List.reverse_reverse, Utf8.decode_encode]
  rfl

end Kompositum.Json

import Kompositum.Proofs.Json.Text
import Kompositum.Proofs.Text.Digits
import Mathlib.Data.List.Basic
import Mathlib.Data.List.TakeDrop

/-!
# Values in JSON

A value is read as it was written, on one line or on several ones.

* `Json.number?_ofNat`: a number there and back.
* `Json.IsRead`: a value that is read as it is written, at any depth and whatever follows.
* `Json.isRead_of_isPlain`: every value that is made of natural numbers and texts.
* `Json.parse?_write`: a document there and back.
-/

namespace Kompositum.Json

open Utf8 (size encode)

variable {bytes rest : Bytes} {t : Text} {c : Char} {n : Nat} {lined : Bool} {depth : Nat}

/-! ## Numbers -/

theorem toNat_code_of_isDigit (h : c.isDigit = true) : (code c).toNat = c.toNat := by
  have hval := Text.toNat_bounds_of_isDigit h
  exact Utf8.toNat_toUInt8 (by omega)

theorem isDigit_code (h : c.isDigit = true) : isDigit (code c) = true := by
  have hzero : (code '0').toNat = 48 := rfl
  have hnine : (code '9').toNat = 57 := rfl
  simp only [isDigit, Bool.and_eq_true, decide_eq_true_eq, UInt8.le_iff_toNat_le,
    toNat_code_of_isDigit h, hzero, hnine]
  exact Text.toNat_bounds_of_isDigit h

/-- Digits in bytes. -/
theorem encode_digits (h : ∀ c ∈ t, c.isDigit = true) : encode t = t.map code := by
  have hchar (c : Char) (hc : c ∈ t) : Utf8.encodeChar c = [code c] := by
    have hval := Text.toNat_bounds_of_isDigit (h c hc)
    rw [Utf8.encodeChar_eq, if_pos (by omega)]
    rfl
  unfold encode
  rw [List.flatMap_congr hchar]
  exact List.flatMap_pure_eq_map code t

theorem ascii_map_code (h : ∀ c ∈ t, c.isDigit = true) : ascii (t.map code) = t := by
  have hchar (c : Char) (hc : c ∈ t) : Char.ofNat (code c).toNat = c := by
    rw [toNat_code_of_isDigit (h c hc), Char.ofNat_toNat]
  unfold ascii
  rw [List.map_map]
  exact (List.map_congr_left hchar).trans (List.map_id t)

theorem map_code_ne_nil (n : Nat) : (Text.ofNat n).map code ≠ [] := by
  rw [Ne, List.map_eq_nil_iff]
  exact Text.ofNat_ne_nil n

theorem isDigit_of_mem_map_code (n : Nat) : ∀ b ∈ (Text.ofNat n).map code, isDigit b = true := by
  intro b hb
  obtain ⟨c, hc, rfl⟩ := List.mem_map.1 hb
  exact isDigit_code (Text.isDigit_of_mem_ofNat hc)

/-- **Bytes that end a number**: they go on with no digit, point or power of ten. -/
def EndsNumber (bytes : Bytes) : Prop :=
  ∀ b ∈ bytes.head?, isDigit b = false ∧ b ≠ code '.' ∧ b ≠ code 'e' ∧ b ≠ code 'E'

theorem endsNumber_cons {b : UInt8}
    (hb : isDigit b = false ∧ b ≠ code '.' ∧ b ≠ code 'e' ∧ b ≠ code 'E') (rest : Bytes) :
    EndsNumber (b :: rest) := by
  intro d hd
  rw [← Option.some.inj hd]
  exact hb

theorem digits?_append {ds : Bytes} (hne : ds ≠ []) (hds : ∀ b ∈ ds, isDigit b = true)
    (hrest : EndsNumber rest) : digits? (ds ++ rest) = some (ds, rest) := by
  have htake : rest.takeWhile isDigit = [] ∧ rest.dropWhile isDigit = rest := by
    cases rest with
    | nil => exact ⟨rfl, rfl⟩
    | cons b rest =>
      have hb := (hrest b rfl).1
      exact ⟨List.takeWhile_cons_of_neg (by simp [hb]), List.dropWhile_cons_of_neg (by simp [hb])⟩
  unfold digits?
  rw [List.span_eq_takeWhile_dropWhile, List.takeWhile_append_of_pos hds,
    List.dropWhile_append_of_pos hds, htake.1, htake.2, List.append_nil]
  simp [hne]

/-- The digits of a number begin with no zero, unless the number is 0. -/
theorem wholeDigits?_ofNat (n : Nat) (hrest : EndsNumber rest) :
    wholeDigits? ((Text.ofNat n).map code ++ rest) = some ((Text.ofNat n).map code, rest) := by
  have hdigits := digits?_append (map_code_ne_nil n) (isDigit_of_mem_map_code n) hrest
  have hzero : ¬(((Text.ofNat n).map code).head? = some (code '0') ∧
      1 < ((Text.ofNat n).map code).length) := by
    rintro ⟨hhead, hlen⟩
    by_cases hn : n = 0
    · subst hn
      exact absurd hlen (by decide)
    · rw [List.head?_map, Option.map_eq_some_iff] at hhead
      obtain ⟨c, hc, hcode⟩ := hhead
      have hdigit := Text.isDigit_of_mem_ofNat (List.mem_of_head? hc)
      have hval : c.toNat = '0'.toNat := by
        rw [← toNat_code_of_isDigit hdigit, hcode]
        rfl
      exact Text.head?_ofNat_ne hn (hc.trans (congrArg some (Char.toNat_inj.1 hval)))
  unfold wholeDigits?
  rw [hdigits]
  simpa using hzero

/-- **A natural number** is read as it was written. -/
theorem number?_ofNat (n : Nat) (hrest : EndsNumber rest) :
    number? (encode (Text.ofNat n) ++ rest) = some (ofNat n, rest) := by
  have hdigit (c : Char) (hc : c ∈ Text.ofNat n) : c.isDigit = true := Text.isDigit_of_mem_ofNat hc
  have hwhole := wholeDigits?_ofNat n hrest
  -- what follows has no sign of its own
  have hpart : fraction? rest = some ([], rest) ∧ power? rest = some ([], rest) := by
    cases rest with
    | nil => exact ⟨rfl, rfl⟩
    | cons b rest =>
      obtain ⟨-, hpoint, hsmall, hlarge⟩ := hrest b rfl
      simp [fraction?, power?, hpoint, hsmall, hlarge]
  obtain ⟨b, bs, hbs⟩ := List.exists_cons_of_ne_nil (map_code_ne_nil n)
  have hsign : (b == code '-') = false := by
    have hb := isDigit_of_mem_map_code n b (hbs ▸ List.mem_cons_self)
    refine beq_eq_false_iff_ne.2 ?_
    rintro rfl
    exact absurd hb (by decide)
  rw [hbs] at hwhole
  have hascii := ascii_map_code hdigit
  rw [hbs] at hascii
  rw [encode_digits hdigit, hbs]
  unfold number?
  simp only [List.cons_append, hsign, Bool.false_eq_true, if_false]
  rw [← List.cons_append, hwhole]
  simp [hpart.1, hpart.2, hascii, ofNat]

/-! ## Blanks -/

/-- What separates the items of a list is blank. -/
theorem skipBlanks_gap (lined : Bool) (depth : Nat) (bytes : Bytes) :
    skipBlanks (encode (gap lined depth) ++ bytes) = skipBlanks bytes := by
  unfold skipBlanks
  refine List.dropWhile_append_of_pos fun b hb => ?_
  cases lined with
  | false => exact absurd hb List.not_mem_nil
  | true =>
    obtain ⟨c, hc, hb⟩ := List.mem_flatMap.1 hb
    rcases List.mem_cons.1 hc with rfl | hc
    · rw [List.mem_singleton.1 hb]
      decide
    · rw [List.eq_of_mem_replicate hc] at hb
      rw [List.mem_singleton.1 hb]
      decide

theorem value?_gap (n : Nat) (lined : Bool) (depth : Nat) (bytes : Bytes) :
    value? n (encode (gap lined depth) ++ bytes) = value? n bytes := by
  cases n with
  | zero => rfl
  | succ n => rw [value?, value?, skipBlanks_gap]

/-- What stands between the last item of a list and its end. -/
theorem endsNumber_gap {b : UInt8} (hb : EndsNumber (b :: rest)) (lined : Bool) (depth : Nat) :
    EndsNumber (encode (gap lined depth) ++ b :: rest) := by
  cases lined with
  | false => exact hb
  | true => exact endsNumber_cons (by decide) _

/-! ## Values -/

/-- **A value that is read as it is written**, at any depth and whatever follows. A nested value
takes two steps, and more than two bytes. -/
def IsRead (j : Json) : Prop :=
  ∀ (lined : Bool) (depth n : Nat) (rest : Bytes), EndsNumber rest →
    2 * size (write lined depth j) ≤ n →
    value? (n + 1) (encode (write lined depth j) ++ rest) = some (j, rest)

theorem isRead_null : IsRead null := by
  intro lined depth n rest _ _
  change (word? "null" (encode "null" ++ rest)).map (fun rest => (null, rest)) = _
  have hword : word? "null" (encode "null" ++ rest) = some rest := rfl
  rw [hword]
  rfl

theorem isRead_truth (b : Bool) : IsRead (truth b) := by
  intro lined depth n rest _ _
  cases b <;> rfl

theorem value?_of_isDigit {b : UInt8} (hb : isDigit b = true) (n : Nat) (bytes : Bytes) :
    value? (n + 1) (b :: bytes) = number? (b :: bytes) := by
  have hne {c : Char} (hc : isDigit (code c) = false) : (b == code c) = false := by
    refine beq_eq_false_iff_ne.2 ?_
    rintro rfl
    rw [hb] at hc
    cases hc
  have hblank : skipBlanks (b :: bytes) = b :: bytes := by
    refine List.dropWhile_cons_of_neg ?_
    simp [hne (c := ' ') rfl, hne (c := '\n') rfl, hne (c := '\t') rfl, hne (c := '\r') rfl]
  rw [value?, hblank]
  simp [hne (c := '"') rfl, hne (c := '[') rfl, hne (c := '\x7b') rfl, hne (c := 'n') rfl,
    hne (c := 't') rfl, hne (c := 'f') rfl]

theorem isRead_ofNat (k : Nat) : IsRead (ofNat k) := by
  intro lined depth n rest hrest _
  change value? (n + 1) (encode (Text.ofNat k) ++ rest) = _
  have hdigits := encode_digits fun c hc => Text.isDigit_of_mem_ofNat (n := k) hc
  obtain ⟨b, bs, hbs⟩ := List.exists_cons_of_ne_nil (map_code_ne_nil k)
  have hb := isDigit_of_mem_map_code k b (hbs ▸ List.mem_cons_self)
  rw [← number?_ofNat k hrest, hdigits, hbs, List.cons_append, value?_of_isDigit hb]

theorem isRead_text (t : Text) : IsRead (text t) := by
  intro lined depth n rest _ hn
  have hbytes : encode (write lined depth (text t)) ++ rest =
      code '"' :: (encode (t.flatMap escapedChar) ++ code '"' :: rest) := by
    unfold write quoted
    rw [Utf8.encode_append, Utf8.encode_append, List.append_assoc, List.append_assoc]
    rfl
  rw [hbytes]
  change (textBody [] true (encode (t.flatMap escapedChar) ++ code '"' :: rest)).map _ = _
  rw [textBody_quoted]
  rfl

/-! ## Lists -/

/-- **One item** of a list, and what follows it. -/
theorem items?_item {j : Json}
    (hvalue : value? n (encode (write lined depth j) ++ bytes) = some (j, bytes)) :
    items? (n + 1) (encode (gap lined depth ++ write lined depth j) ++ bytes) =
      match mark? ',' (skipBlanks bytes) with
      | some rest => (items? n rest).map fun (js, rest) => (j :: js, rest)
      | none => (mark? ']' (skipBlanks bytes)).map fun rest => ([j], rest) := by
  rw [Utf8.encode_append, List.append_assoc, items?, value?_gap, hvalue]
  simp only [Option.bind_eq_bind, Option.bind_some]
  cases mark? ',' (skipBlanks bytes) with
  | none => exact Option.map_eq_bind.symm
  | some rest => exact Option.map_eq_bind.symm

/-- **The items of a list** are read as they are written. -/
theorem items?_writeItems {js : List Json} (hne : js ≠ []) (h : ∀ j ∈ js, IsRead j)
    (lined : Bool) (depth outer : Nat) (hn : 2 * size (writeItems lined depth js) < n)
    (rest : Bytes) :
    items? (n + 1) (encode (writeItems lined depth js) ++
      (encode (gap lined outer) ++ code ']' :: rest)) = some (js, rest) := by
  induction js generalizing n with
  | nil => exact absurd rfl hne
  | cons j js ih =>
    obtain ⟨n, rfl⟩ : ∃ k, n = k + 1 := ⟨n - 1, by omega⟩
    have hitem := h j List.mem_cons_self lined depth n
    cases js with
    | nil =>
      have hwrite : writeItems lined depth [j] = gap lined depth ++ write lined depth j := rfl
      rw [hwrite, Utf8.size_append] at hn
      have hend := endsNumber_cons (b := code ']') (by decide) rest
      have hvalue := hitem _ (endsNumber_gap hend lined outer) (by omega)
      rw [hwrite, items?_item hvalue, skipBlanks_gap]
      rfl
    | cons j' js =>
      have hwrite : writeItems lined depth (j :: j' :: js) =
          gap lined depth ++ write lined depth j ++ [','] ++ writeItems lined depth (j' :: js) :=
        rfl
      rw [hwrite] at hn
      simp only [Utf8.size_append] at hn
      have hcomma : size [','] = 1 := rfl
      have hvalue (more : Bytes) := hitem (code ',' :: more)
        (endsNumber_cons (by decide) more) (by omega)
      have hrest := ih (List.cons_ne_nil j' js) (fun i hi => h i (List.mem_cons_of_mem j hi))
        (n := n) (by omega)
      have hbytes : encode [','] = [code ','] := rfl
      have hmark (more : Bytes) : mark? ',' (skipBlanks (code ',' :: more)) = some more := rfl
      rw [hwrite, Utf8.encode_append, Utf8.encode_append, List.append_assoc, List.append_assoc,
        hbytes, List.singleton_append, items?_item (hvalue _), hmark]
      simp only [hrest, Option.map_some]

/-- A list of some items does not end where it begins. -/
theorem mark?_of_items? {p : List Json × Bytes} (h : items? n bytes = some p) :
    mark? ']' (skipBlanks bytes) = none := by
  cases hskip : skipBlanks bytes with
  | nil => rfl
  | cons b rest =>
    refine if_neg fun hb => ?_
    -- no value begins like this
    have hnone (k : Nat) : value? k bytes = none := by
      cases k with
      | zero => rfl
      | succ k =>
        rw [value?, hskip, eq_of_beq hb]
        rfl
    cases n with
    | zero => cases h
    | succ n =>
      rw [items?, hnone] at h
      cases h

theorem value?_list (n : Nat) (bytes : Bytes) :
    value? (n + 1) (code '[' :: bytes) =
      match mark? ']' (skipBlanks bytes) with
      | some rest => some (list [], rest)
      | none => (items? n bytes).map fun (js, rest) => (list js, rest) := rfl

theorem isRead_list {js : List Json} (h : ∀ j ∈ js, IsRead j) : IsRead (list js) := by
  intro lined depth n rest _ hn
  cases js with
  | nil => rfl
  | cons j js =>
    have hwrite : write lined depth (list (j :: js)) =
        ['['] ++ writeItems lined (depth + 1) (j :: js) ++ gap lined depth ++ [']'] := rfl
    rw [hwrite] at hn ⊢
    simp only [Utf8.size_append] at hn
    have hsize : size ['['] = 1 := rfl
    obtain ⟨n, rfl⟩ : ∃ k, n = k + 1 := ⟨n - 1, by omega⟩
    have hitems := items?_writeItems (List.cons_ne_nil j js) h lined (depth + 1) depth
      (n := n) (by omega) rest
    have hopen : encode ['['] = [code '['] := rfl
    have hclose : encode [']'] = [code ']'] := rfl
    simp only [Utf8.encode_append, List.append_assoc]
    rw [hopen, hclose, List.singleton_append, List.singleton_append, value?_list,
      mark?_of_items? hitems, hitems]
    rfl

/-! ## Objects -/

/-- A key and its value. -/
theorem value?_colon (n : Nat) (lined : Bool) (bytes : Bytes) :
    (mark? ':' (skipBlanks (encode (colon lined) ++ bytes))).bind (value? n) = value? n bytes := by
  cases lined with
  | false => rfl
  | true =>
    have hmark : mark? ':' (skipBlanks (encode (colon true) ++ bytes)) =
        some (code ' ' :: bytes) := rfl
    have hblank : skipBlanks (code ' ' :: bytes) = skipBlanks bytes := rfl
    rw [hmark, Option.bind_some]
    cases n with
    | zero => rfl
    | succ n => rw [value?, value?, hblank]

/-- The beginning of a key. -/
theorem mark?_quoted (lined : Bool) (depth : Nat) (k : Text) (bytes : Bytes) :
    mark? '"' (skipBlanks (encode (gap lined depth) ++ (encode (quoted k) ++ bytes))) =
      some (encode (k.flatMap escapedChar) ++ code '"' :: bytes) := by
  have hquoted : encode (quoted k) ++ bytes =
      code '"' :: (encode (k.flatMap escapedChar) ++ code '"' :: bytes) := by
    unfold quoted
    rw [Utf8.encode_append, Utf8.encode_append, List.append_assoc, List.append_assoc]
    rfl
  rw [skipBlanks_gap, hquoted]
  rfl

/-- **One field** of an object, and what follows it. -/
theorem fields?_field {j : Json} (k : Text)
    (hvalue : value? n (encode (write lined depth j) ++ bytes) = some (j, bytes)) :
    fields? (n + 1)
        (encode (gap lined depth ++ quoted k ++ colon lined ++ write lined depth j) ++ bytes) =
      match mark? ',' (skipBlanks bytes) with
      | some rest => (fields? n rest).map fun (fs, rest) => ((some k, j) :: fs, rest)
      | none => (mark? '\x7d' (skipBlanks bytes)).map fun rest => ([(some k, j)], rest) := by
  have hcolon := value?_colon n lined (encode (write lined depth j) ++ bytes)
  rw [hvalue] at hcolon
  obtain ⟨more, hmark, hmore⟩ := Option.bind_eq_some_iff.1 hcolon
  simp only [Utf8.encode_append, List.append_assoc]
  rw [fields?, mark?_quoted]
  simp only [Option.bind_eq_bind, Option.bind_some, textBody_quoted, hmark, hmore]
  cases mark? ',' (skipBlanks bytes) with
  | none => exact Option.map_eq_bind.symm
  | some rest => exact Option.map_eq_bind.symm

/-- **The fields of an object** are read as they are written. -/
theorem fields?_writeFields {fs : List (Text × Json)} (hne : fs ≠ []) (h : ∀ f ∈ fs, IsRead f.2)
    (lined : Bool) (depth outer : Nat) (hn : 2 * size (writeFields lined depth fs) < n)
    (rest : Bytes) :
    fields? (n + 1) (encode (writeFields lined depth fs) ++
      (encode (gap lined outer) ++ code '\x7d' :: rest)) =
        some (fs.map fun f => (some f.1, f.2), rest) := by
  induction fs generalizing n with
  | nil => exact absurd rfl hne
  | cons f fs ih =>
    obtain ⟨k, j⟩ := f
    obtain ⟨n, rfl⟩ : ∃ m, n = m + 1 := ⟨n - 1, by omega⟩
    have hj : IsRead j := h (k, j) List.mem_cons_self
    cases fs with
    | nil =>
      have hwrite : writeFields lined depth [(k, j)] =
          gap lined depth ++ quoted k ++ colon lined ++ write lined depth j := rfl
      rw [hwrite] at hn
      simp only [Utf8.size_append] at hn
      have hend := endsNumber_cons (b := code '\x7d') (by decide) rest
      have hvalue := hj lined depth n _ (endsNumber_gap hend lined outer) (by omega)
      rw [hwrite, fields?_field k hvalue, skipBlanks_gap]
      rfl
    | cons f' fs =>
      have hwrite : writeFields lined depth ((k, j) :: f' :: fs) =
          gap lined depth ++ quoted k ++ colon lined ++ write lined depth j ++ [','] ++
            writeFields lined depth (f' :: fs) := rfl
      rw [hwrite] at hn
      simp only [Utf8.size_append] at hn
      have hcomma : size [','] = 1 := rfl
      have hvalue (more : Bytes) := hj lined depth n (code ',' :: more)
        (endsNumber_cons (by decide) more) (by omega)
      have hrest := ih (List.cons_ne_nil f' fs) (fun g hg => h g (List.mem_cons_of_mem (k, j) hg))
        (n := n) (by omega)
      have hbytes : encode [','] = [code ','] := rfl
      have hmark (more : Bytes) : mark? ',' (skipBlanks (code ',' :: more)) = some more := rfl
      rw [hwrite, Utf8.encode_append _ (writeFields lined depth (f' :: fs)),
        Utf8.encode_append _ [','], List.append_assoc, List.append_assoc, hbytes,
        List.singleton_append, fields?_field k (hvalue _), hmark]
      simp only [hrest, Option.map_some, List.map_cons]

/-- An object of some fields does not end where it begins. -/
theorem mark?_of_fields? {p : List (Option Text × Json) × Bytes} (h : fields? n bytes = some p) :
    mark? '\x7d' (skipBlanks bytes) = none := by
  cases hskip : skipBlanks bytes with
  | nil => rfl
  | cons b rest =>
    refine if_neg fun hb => ?_
    cases n with
    | zero => cases h
    | succ n =>
      rw [fields?, hskip, eq_of_beq hb] at h
      cases h

/-- Keys that are texts. -/
theorem ofFields_some (fs : List (Text × Json)) :
    ofFields (fs.map fun f => (some f.1, f.2)) = object fs := by
  have hfields : fs.mapM (fun f : Text × Json => some (f.1, f.2)) = some fs :=
    (List.mapM_pure (m := Option) (f := id)).trans (congrArg some (List.map_id fs))
  unfold ofFields
  rw [List.mapM_map]
  dsimp only [Function.comp_def, Option.map_some]
  rw [hfields]

theorem value?_object (n : Nat) (bytes : Bytes) :
    value? (n + 1) (code '\x7b' :: bytes) =
      match mark? '\x7d' (skipBlanks bytes) with
      | some rest => some (object [], rest)
      | none => (fields? n bytes).map fun (fs, rest) => (ofFields fs, rest) := rfl

theorem isRead_object {fs : List (Text × Json)} (h : ∀ f ∈ fs, IsRead f.2) :
    IsRead (object fs) := by
  intro lined depth n rest _ hn
  cases fs with
  | nil => rfl
  | cons f fs =>
    have hwrite : write lined depth (object (f :: fs)) =
        ['\x7b'] ++ writeFields lined (depth + 1) (f :: fs) ++ gap lined depth ++ ['\x7d'] := rfl
    rw [hwrite] at hn ⊢
    simp only [Utf8.size_append] at hn
    have hsize : size ['\x7b'] = 1 := rfl
    obtain ⟨n, rfl⟩ : ∃ k, n = k + 1 := ⟨n - 1, by omega⟩
    have hfields := fields?_writeFields (List.cons_ne_nil f fs) h lined (depth + 1) depth
      (n := n) (by omega) rest
    have hopen : encode ['\x7b'] = [code '\x7b'] := rfl
    have hclose : encode ['\x7d'] = [code '\x7d'] := rfl
    simp only [Utf8.encode_append, List.append_assoc]
    rw [hopen, hclose, List.singleton_append, List.singleton_append, value?_object,
      mark?_of_fields? hfields, hfields]
    simp only [Option.map_some, ofFields_some]

/-! ## Documents -/

/-- **A value that is made of natural numbers and texts.** -/
inductive IsPlain : Json → Prop where
  | null : IsPlain null
  | truth (b : Bool) : IsPlain (truth b)
  | ofNat (n : Nat) : IsPlain (ofNat n)
  | text (t : Text) : IsPlain (text t)
  | list {js : List Json} (h : ∀ j ∈ js, IsPlain j) : IsPlain (list js)
  | object {fs : List (Text × Json)} (h : ∀ f ∈ fs, IsPlain f.2) : IsPlain (object fs)

/-- **A plain value** is read as it is written. -/
theorem isRead_of_isPlain {j : Json} (h : IsPlain j) : IsRead j := by
  induction h with
  | null => exact isRead_null
  | truth b => exact isRead_truth b
  | ofNat n => exact isRead_ofNat n
  | text t => exact isRead_text t
  | list _ ih => exact isRead_list ih
  | object _ ih => exact isRead_object ih

/-- **A document** is read as it is written. -/
theorem parse?_write {j : Json} (h : IsPlain j) (lined : Bool) :
    parse? (encode (write lined 0 j)) = some j := by
  have hend : EndsNumber [] := fun b hb => by cases hb
  have hread := isRead_of_isPlain h lined 0 (2 * (encode (write lined 0 j)).length + 1) [] hend
    (Nat.le_succ _)
  rw [List.append_nil] at hread
  unfold parse?
  rw [hread]
  rfl

/-- **A document of several lines** is read as it is written. -/
theorem parse?_pretty {j : Json} (h : IsPlain j) : parse? (encode j.pretty) = some j :=
  parse?_write h true

end Kompositum.Json

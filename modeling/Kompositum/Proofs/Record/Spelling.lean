import Kompositum.Proofs.Record.Row
import Kompositum.Proofs.Record.Streaming

/-!
# Spelled values

A file need not come from the writer: a number may take more bytes than it needs, and the numbers of
a row may wrap around as often as they like. But what a reader has read is always spelled by the
bytes that it has gone past, whatever they are.

* `Varint.Spells`, `Field.Spells`, `Record.Spells`: the bytes that spell a number, a value, and a
  row of values.
* `Record.Spells.unique`: no bytes spell two rows of the same kinds.
* `Reader.Sound`: reading that reads only what is spelled.
* `Reader.sound_read`: every value is read so.
-/

namespace Kompositum

/-! ## The bytes of a value -/

/-- **The bytes that spell a number**: groups of seven bits, lowest first, where every byte but the
last has its high bit set. The highest groups may be zero. -/
inductive Varint.Spells : Bytes → Nat → Prop
  | last {b : UInt8} : b < 128 → Spells [b] b.toNat
  | more {b : UInt8} {rest : Bytes} {n : Nat} : ¬b < 128 → Spells rest n →
      Spells (b :: rest) (b.toNat % 128 + 128 * n)

/-- The bytes that spell a row of numbers by the distance of each from the one before it. Sums wrap
around at 2³². -/
inductive Record.SpellsFrom : Nat → Bytes → List Nat → Prop
  | nil {previous : Nat} : SpellsFrom previous [] []
  | cons {previous d : Nat} {bytes rest : Bytes} {ids : List Nat} : Varint.Spells bytes d →
      SpellsFrom ((previous + d) % Record.wordBound) rest ids →
      SpellsFrom previous (bytes ++ rest) ((previous + d) % Record.wordBound :: ids)

/-- **The bytes that spell a value.** -/
inductive Field.Spells : Bytes → Field → Prop
  | word {bytes : Bytes} : bytes.length = 4 → Spells bytes (.word (Reader.wordOf bytes))
  | varint {bytes : Bytes} {n : Nat} : Varint.Spells bytes n → Spells bytes (.varint n)
  | text {count bytes : Bytes} {t : Text} : Varint.Spells count bytes.length →
      Utf8.decode bytes = .ok t → Spells (count ++ bytes) (.text t)
  | raw {bytes : Bytes} : Spells bytes (.raw bytes)
  | postings {count bytes : Bytes} {ids : List Nat} : Varint.Spells count ids.length →
      Record.SpellsFrom 0 bytes ids → Spells (count ++ bytes) (.postings ids)

/-- **The bytes that spell a row of values**, one after the other. -/
inductive Record.Spells : Bytes → List Field → Prop
  | nil : Spells [] []
  | cons {bytes rest : Bytes} {field : Field} {fields : List Field} : Field.Spells bytes field →
      Spells rest fields → Spells (bytes ++ rest) (field :: fields)

namespace Record

theorem Spells.append {bytes rest : Bytes} {fields more : List Field} (h : Spells bytes fields)
    (hmore : Spells rest more) : Spells (bytes ++ rest) (fields ++ more) := by
  induction h with
  | nil => exact hmore
  | cons hfield _ ih =>
    rw [List.append_assoc, List.cons_append]
    exact .cons hfield ih

/-- **Two rows of values** are spelled one behind the other. -/
theorem spells_append_iff {bytes : Bytes} {fields more : List Field} :
    Spells bytes (fields ++ more) ↔
      ∃ first rest, bytes = first ++ rest ∧ Spells first fields ∧ Spells rest more := by
  constructor
  · intro h
    induction fields generalizing bytes with
    | nil => exact ⟨[], bytes, rfl, .nil, h⟩
    | cons field fields ih =>
      cases h with
      | cons hfield hrest =>
        obtain ⟨first, rest, rfl, hfields, hmore⟩ := ih hrest
        exact ⟨_, rest, (List.append_assoc _ _ _).symm, .cons hfield hfields, hmore⟩
  · rintro ⟨first, rest, rfl, hfields, hmore⟩
    exact hfields.append hmore

theorem spells_single {bytes : Bytes} {field : Field} (h : Field.Spells bytes field) :
    Spells bytes [field] := by
  have hone := Spells.cons h .nil
  rwa [List.append_nil] at hone

end Record

/-! ## One meaning -/

/-- **Bytes spell one number**, whatever follows them. -/
theorem Varint.Spells.unique {bytes bytes' rest rest' : Bytes} {n m : Nat}
    (h : Varint.Spells bytes n) (h' : Varint.Spells bytes' m)
    (heq : bytes ++ rest = bytes' ++ rest') : n = m ∧ rest = rest' := by
  induction h generalizing bytes' m with
  | last hb =>
    cases h' with
    | last hb' =>
      obtain ⟨rfl, hrest⟩ := List.cons_eq_cons.1 heq
      exact ⟨rfl, hrest⟩
    | more hb' _ =>
      obtain ⟨rfl, -⟩ := List.cons_eq_cons.1 heq
      exact absurd hb hb'
  | more hb _ ih =>
    cases h' with
    | last hb' =>
      obtain ⟨rfl, -⟩ := List.cons_eq_cons.1 heq
      exact absurd hb' hb
    | more hb' hmore =>
      obtain ⟨rfl, htail⟩ := List.cons_eq_cons.1 heq
      obtain ⟨rfl, hrest⟩ := ih hmore htail
      exact ⟨rfl, hrest⟩

theorem Record.SpellsFrom.unique {previous : Nat} {bytes bytes' rest rest' : Bytes}
    {ids ids' : List Nat} (h : Record.SpellsFrom previous bytes ids)
    (h' : Record.SpellsFrom previous bytes' ids') (hlen : ids.length = ids'.length)
    (heq : bytes ++ rest = bytes' ++ rest') : ids = ids' ∧ rest = rest' := by
  induction h generalizing bytes' ids' with
  | nil =>
    cases h' with
    | nil => exact ⟨rfl, heq⟩
    | cons _ _ => cases hlen
  | cons hd _ ih =>
    cases h' with
    | nil => cases hlen
    | cons hd' hids' =>
      rw [List.append_assoc, List.append_assoc] at heq
      obtain ⟨rfl, htail⟩ := hd.unique hd' heq
      obtain ⟨rfl, hrest⟩ := ih hids' (Nat.succ.inj hlen) htail
      exact ⟨rfl, hrest⟩

/-- **Bytes spell one value** of a kind, whatever follows them. -/
theorem Field.Spells.unique {bytes bytes' rest rest' : Bytes} {field field' : Field}
    (h : Field.Spells bytes field) (h' : Field.Spells bytes' field')
    (hkind : field.kind = field'.kind) (heq : bytes ++ rest = bytes' ++ rest') :
    field = field' ∧ rest = rest' := by
  cases h with
  | word hlen =>
    cases h' with
    | word hlen' =>
      obtain ⟨rfl, hrest⟩ := List.append_inj heq (hlen.trans hlen'.symm)
      exact ⟨rfl, hrest⟩
    | _ => cases hkind
  | varint hn =>
    cases h' with
    | varint hn' =>
      obtain ⟨rfl, hrest⟩ := hn.unique hn' heq
      exact ⟨rfl, hrest⟩
    | _ => cases hkind
  | text hcount hdecode =>
    cases h' with
    | text hcount' hdecode' =>
      rw [List.append_assoc, List.append_assoc] at heq
      obtain ⟨hlen, htail⟩ := hcount.unique hcount' heq
      obtain ⟨rfl, hrest⟩ := List.append_inj htail hlen
      obtain rfl := Except.ok.inj (hdecode.symm.trans hdecode')
      exact ⟨rfl, hrest⟩
    | _ => cases hkind
  | raw =>
    cases h' with
    | raw =>
      obtain ⟨rfl, hrest⟩ := List.append_inj heq (FieldKind.raw.inj hkind)
      exact ⟨rfl, hrest⟩
    | _ => cases hkind
  | postings hcount hids =>
    cases h' with
    | postings hcount' hids' =>
      rw [List.append_assoc, List.append_assoc] at heq
      obtain ⟨hlen, htail⟩ := hcount.unique hcount' heq
      obtain ⟨rfl, hrest⟩ := hids.unique hids' hlen htail
      exact ⟨rfl, hrest⟩
    | _ => cases hkind

/-- **Bytes spell one row of values** of some kinds, whatever follows them. -/
theorem Record.Spells.unique {bytes bytes' rest rest' : Bytes} {fields fields' : List Field}
    (h : Record.Spells bytes fields) (h' : Record.Spells bytes' fields')
    (hkinds : fields.map Field.kind = fields'.map Field.kind)
    (heq : bytes ++ rest = bytes' ++ rest') : fields = fields' ∧ rest = rest' := by
  induction h generalizing bytes' fields' with
  | nil =>
    cases h' with
    | nil => exact ⟨rfl, heq⟩
    | cons _ _ => cases hkinds
  | cons hfield _ ih =>
    cases h' with
    | nil => cases hkinds
    | cons hfield' hfields' =>
      obtain ⟨hkind, hmore⟩ := List.cons_eq_cons.1 hkinds
      rw [List.append_assoc, List.append_assoc] at heq
      obtain ⟨rfl, htail⟩ := hfield.unique hfield' hkind heq
      obtain ⟨rfl, hrest⟩ := ih hfields' hmore htail
      exact ⟨rfl, hrest⟩

namespace Varint

/-- **A number that is read is spelled** by the bytes up to the first one without its high bit. What
stands before them is `value` already. -/
theorem spells_of_decodeFrom {n i value m k : Nat} {rest bytes : Bytes}
    (hbytes : Reader.varintBytes? n rest = some bytes)
    (hread : decodeFrom i value bytes = .ok (m, k)) :
    ∃ v, Spells bytes v ∧ m = value + v * Nat.pow 128 i := by
  induction n generalizing i value rest bytes with
  | zero =>
    -- too many bytes were looked at
    cases hbytes
    cases hread
  | succ n ih =>
    cases rest with
    | nil => cases hbytes
    | cons b rest =>
      rw [Reader.varintBytes?] at hbytes
      by_cases hb : b < 128
      · rw [if_pos hb] at hbytes
        cases hbytes
        have hlow : b.toNat % 128 = b.toNat := Nat.mod_eq_of_lt (UInt8.lt_iff_toNat_lt.1 hb)
        rw [decodeFrom] at hread
        simp only [if_pos hb] at hread
        split at hread
        · cases hread
        · obtain ⟨rfl, -⟩ := Prod.mk.inj (Except.ok.inj hread)
          exact ⟨b.toNat, .last hb, by rw [hlow]⟩
      · rw [if_neg hb] at hbytes
        obtain ⟨tail, htail, rfl⟩ := Option.map_eq_some_iff.1 hbytes
        rw [decodeFrom] at hread
        simp only [if_neg hb] at hread
        split at hread
        · cases hread
        · obtain ⟨v, hv, rfl⟩ := ih htail hread
          refine ⟨b.toNat % 128 + 128 * v, .more hb hv, ?_⟩
          have hpow : Nat.pow 128 (i + 1) = Nat.pow 128 i * 128 := rfl
          rw [hpow, Nat.add_mul, ← Nat.add_assoc, Nat.mul_comm (Nat.pow 128 i), ← Nat.mul_assoc,
            Nat.mul_comm v]

end Varint

namespace Reader

variable {ε α β : Type}

/-! ## Going past bytes -/

/-- **From one place in a file to a later one**, past some bytes. -/
structure Goes (r : Reader) (taken : Bytes) (r' : Reader) : Prop where
  rest : r.rest = taken ++ r'.rest
  place : r' = r.after taken r'.rest

theorem goes_refl (r : Reader) : r.Goes [] r := ⟨rfl, rfl⟩

theorem Goes.trans {r r₁ r₂ : Reader} {taken more : Bytes} (h : r.Goes taken r₁)
    (hmore : r₁.Goes more r₂) : r.Goes (taken ++ more) r₂ := by
  refine ⟨by rw [h.rest, hmore.rest, List.append_assoc], ?_⟩
  have hplace := hmore.place
  rw [h.place] at hplace
  rw [hplace]
  unfold after Crc32.update
  simp only [List.length_append, List.foldl_append, Nat.add_assoc]

/-- **Reading that reads only what is spelled**: past a result there lie bytes that spell it. -/
def Sound (spells : Bytes → α → Prop) (f : Reader → Except ε (α × Reader)) : Prop :=
  ∀ r a r', f r = .ok (a, r') → ∃ taken, r.Goes taken r' ∧ spells taken a

variable {spells : Bytes → α → Prop}

theorem Sound.mono {spells' : Bytes → α → Prop} {f : Reader → Except ε (α × Reader)}
    (hf : Sound spells f) (h : ∀ bytes a, spells bytes a → spells' bytes a) : Sound spells' f := by
  intro r a r' hread
  obtain ⟨taken, hgoes, hspelled⟩ := hf r a r' hread
  exact ⟨taken, hgoes, h taken a hspelled⟩

/-- Nothing is read. -/
theorem sound_pure {a : α} (h : spells [] a) :
    Sound spells fun r => (.ok (a, r) : Except ε (α × Reader)) := by
  intro r a' r' hread
  obtain ⟨rfl, rfl⟩ := Prod.mk.inj (Except.ok.inj hread)
  exact ⟨[], goes_refl r, h⟩

theorem sound_error (e : ε) : Sound spells fun _ => (.error e : Except ε (α × Reader)) :=
  fun _ _ _ hread => by cases hread

/-- **Two values**, the second one right behind the first. -/
theorem Sound.bind {spells' : α → Bytes → β → Prop} {both : Bytes → β → Prop}
    {f : Reader → Except ε (α × Reader)} {g : α → Reader → Except ε (β × Reader)}
    (hf : Sound spells f) (hg : ∀ a, Sound (spells' a) (g a))
    (h : ∀ first a second b, spells first a → spells' a second b → both (first ++ second) b) :
    Sound both fun r => f r >>= fun p => g p.1 p.2 := by
  intro r b r₂ hread
  obtain ⟨⟨a, r₁⟩, hfirst, hsecond⟩ := bind_eq_ok.1 hread
  obtain ⟨first, hgoes, hspelled⟩ := hf r a r₁ hfirst
  obtain ⟨second, hgoes', hspelled'⟩ := hg a r₁ b r₂ hsecond
  exact ⟨first ++ second, hgoes.trans hgoes', h first a second b hspelled hspelled'⟩

/-- A check of what has been read, which is known to hold from then on. -/
theorem sound_unless {f : Reader → Except ε (α × Reader)} (c : Prop) [Decidable c] (e : ε)
    (hf : ¬c → Sound spells f) : Sound spells fun r => if c then .error e else f r := by
  by_cases hc : c
  · simpa only [if_pos hc] using sound_error e
  · simpa only [if_neg hc] using hf hc

/-- A value that has to end before the file does. -/
theorem Sound.within {f : Reader → Except ε (α × Reader)} (hf : Sound spells f) (n : Nat)
    (e : Reader → ε) :
    Sound spells fun r => if r.size < r.position + n then .error (e r) else f r := by
  intro r a r' hread
  by_cases hroom : r.size < r.position + n
  · simp only [if_pos hroom] at hread
    cases hread
  · simp only [if_neg hroom] at hread
    exact hf r a r' hread

/-- **The image of what has been read.** -/
theorem Sound.image {spells' : Bytes → β → Prop} {f : Reader → Except ε (α × Reader)}
    (hf : Sound spells f) (g : α → β) (h : ∀ bytes a, spells bytes a → spells' bytes (g a)) :
    Sound spells' fun r => f r >>= fun p => .ok (g p.1, p.2) := by
  intro r b r' hread
  obtain ⟨⟨a, r₁⟩, hfirst, himage⟩ := bind_eq_ok.1 hread
  obtain ⟨rfl, rfl⟩ := Prod.mk.inj (Except.ok.inj himage)
  obtain ⟨taken, hgoes, hspelled⟩ := hf r a r₁ hfirst
  exact ⟨taken, hgoes, h taken a hspelled⟩

theorem Sound.map {spells' : Bytes → β → Prop} {f : Reader → Except ε (α × Reader)}
    (hf : Sound spells f) (g : α → β) (h : ∀ bytes a, spells bytes a → spells' bytes (g a)) :
    Sound spells' fun r => (f r).map fun p => (g p.1, p.2) := by
  have hbind : (fun r => (f r).map fun p => (g p.1, p.2)) =
      fun r => f r >>= fun p => .ok (g p.1, p.2) := by
    funext r
    cases f r with
    | error e => rfl
    | ok p => rfl
  rw [hbind]
  exact hf.image g h

/-! ## Values -/

theorem sound_readRaw (n : Nat) :
    Sound (fun bytes a => a = bytes ∧ bytes.length = n) (readRaw n) := by
  intro r a r' hread
  unfold readRaw at hread
  simp only at hread
  split at hread
  · cases hread
  · rename_i hlen
    obtain ⟨rfl, rfl⟩ := Prod.mk.inj (Except.ok.inj hread)
    have hle := List.length_take_le n r.rest
    exact ⟨r.rest.take n, ⟨(List.take_append_drop n r.rest).symm, rfl⟩, rfl, by omega⟩

theorem sound_readWord : Sound (fun bytes n => Field.Spells bytes (.word n)) readWord := by
  refine (sound_readRaw 4).image wordOf ?_
  rintro bytes a ⟨rfl, hlen⟩
  exact .word hlen

/-- Four bytes hold no number of 2³² or more. -/
theorem wordOf_lt {bytes : Bytes} (h : bytes.length = 4) : wordOf bytes < Record.wordBound := by
  match bytes, h with
  | [a, b, c, d], _ =>
    have ha := a.toNat_lt
    have hb := b.toNat_lt
    have hc := c.toNat_lt
    have hd := d.toNat_lt
    unfold wordOf Record.wordBound
    simp only [List.foldr_cons, List.foldr_nil]
    omega

/-- **A number that is read** is spelled by its bytes. -/
theorem sound_readVarint : Sound Varint.Spells readVarint := by
  intro r n r' hread
  unfold readVarint at hread
  split at hread
  · cases hread
  · rename_i bytes hbytes
    split at hread
    · cases hread
    · rename_i m k hdecode
      obtain ⟨rfl, rfl⟩ := Prod.mk.inj (Except.ok.inj hread)
      obtain ⟨left, hrest, -⟩ := varintBytes?_eq_some hbytes
      obtain ⟨v, hspelled, hvalue⟩ := Varint.spells_of_decodeFrom hbytes hdecode
      have hzero : Nat.pow 128 0 = 1 := rfl
      rw [hzero, Nat.mul_one, Nat.zero_add] at hvalue
      refine ⟨bytes, ⟨?_, rfl⟩, hvalue ▸ hspelled⟩
      have hdrop : (r.after bytes (r.rest.drop bytes.length)).rest = left := by
        rw [hrest]
        exact List.drop_left
      rw [hdrop, hrest]

theorem sound_decoded (bytes : Bytes) :
    Sound (fun rest t => rest = [] ∧ Utf8.decode bytes = .ok t) fun r =>
      match Utf8.decode bytes with
      | .ok t => (return (t, r) : Except ReadFault (Text × Reader))
      | .error fault => .error (.utf8 fault) := by
  cases Utf8.decode bytes with
  | ok t => exact sound_pure ⟨rfl, rfl⟩
  | error fault => exact sound_error _

/-- **A text that is read** is what its bytes say, behind their number. -/
theorem sound_readText : Sound (fun bytes t => Field.Spells bytes (.text t)) readText := by
  -- the bytes of the text alone
  have hbytes : ∀ n, Sound (fun bytes t => bytes.length = n ∧ Utf8.decode bytes = .ok t)
      fun r => readRaw n r >>= fun p =>
        match Utf8.decode p.1 with
        | .ok t => (return (t, p.2) : Except ReadFault (Text × Reader))
        | .error fault => .error (.utf8 fault) := by
    intro n
    refine (sound_readRaw n).bind sound_decoded ?_
    rintro bytes a rest t ⟨rfl, hlen⟩ ⟨rfl, hdecode⟩
    rw [List.append_nil]
    exact ⟨hlen, hdecode⟩
  refine sound_readVarint.bind (fun n => (hbytes n).within n fun r =>
    if Count.largest < r.position + n then .unaddressable n else .textTooLong n) ?_
  rintro count n bytes t hcount ⟨rfl, hdecode⟩
  exact .text hcount hdecode

theorem sound_readDistances (previous n : Nat) :
    Sound (fun bytes ids => ids.length = n ∧ Record.SpellsFrom previous bytes ids)
      (readDistances previous n) := by
  induction n generalizing previous with
  | zero => exact sound_pure ⟨rfl, .nil⟩
  | succ n ih =>
    have hrest : ∀ id, Sound (fun bytes ids => ids.length = n + 1 ∧ ∃ more,
        ids = id :: more ∧ Record.SpellsFrom id bytes more)
        fun r => readDistances id n r >>= fun p => .ok (id :: p.1, p.2) := by
      intro id
      refine (ih id).image (id :: ·) ?_
      rintro bytes more ⟨hlen, hmore⟩
      exact ⟨by rw [List.length_cons, hlen], more, rfl, hmore⟩
    refine sound_readVarint.bind (fun d => hrest ((previous + d) % Record.wordBound)) ?_
    rintro bytes d rest ids hd ⟨hlen, more, rfl, hmore⟩
    exact ⟨hlen, .cons hd hmore⟩

/-- **A row of numbers that is read** is spelled behind their count. -/
theorem sound_readPostings :
    Sound (fun bytes ids => Field.Spells bytes (.postings ids)) readPostings := by
  refine sound_readVarint.bind (sound_readDistances 0) ?_
  rintro count n bytes ids hcount ⟨rfl, hids⟩
  exact .postings hcount hids

/-- **A value that is read** is spelled by the bytes that are gone past. -/
theorem sound_read (kind : FieldKind) : Sound Field.Spells fun r => r.read kind := by
  cases kind with
  | word => exact sound_readWord.map Field.word fun _ _ h => h
  | varint => exact sound_readVarint.map Field.varint fun _ _ h => Field.Spells.varint h
  | text => exact sound_readText.map Field.text fun _ _ h => h
  | raw n =>
    refine (sound_readRaw n).map Field.raw ?_
    rintro bytes a ⟨rfl, -⟩
    exact Field.Spells.raw
  | postings => exact sound_readPostings.map Field.postings fun _ _ h => h

end Reader

end Kompositum

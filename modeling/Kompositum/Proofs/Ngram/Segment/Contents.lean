import Kompositum.Proofs.Ngram.Segment.Parts
import Kompositum.Proofs.Record.Spelling

/-!
# What stands in a segment file

A file that is read as a segment need not have been written as one: its numbers may take more bytes
than they need, its grams may stand in any order, and a token may come more than once. But it is
laid out as one, and the segment is what stands there.

* `Segment.Holds`: the grams and the tokens that stand in a file.
* `Segment.Holds.unique`: no file holds two of them.
* `Segment.sound_readContent`: what is read stands there.
* `Segment.holds_of_decode`: a file that is read as a segment holds its grams, and tokens that all
  have positions of grams.
-/

namespace Kompositum

namespace Segment

open Reader
open Text (Table)

/-- The values that the entries of a table are kept in, one after the other. -/
def entryFields {α : Type} (value : α → Field) (entries : List (Text × α)) : List Field :=
  entries.flatMap fun e => [.text e.1, value e.2]

/-- The values of a file: its head, its grams and its tokens. -/
theorem fields_eq (order : Nat) (grams : List (Text × Nat)) (terms : List (Text × List Nat)) :
    fields ⟨order, grams, terms⟩ =
      [.word mark, .word version, .word (order % Record.wordBound), .varint grams.length] ++
        (entryFields .varint grams ++ .varint terms.length :: entryFields .postings terms) := by
  unfold fields entryFields
  simp only [List.append_assoc, List.cons_append, List.nil_append]

/-- **The grams and tokens that stand in a file of an order**, each in the place where it stands.
Behind them there is nothing but the checksum. -/
def Holds (bytes : Bytes) (order : Nat) (grams : List (Text × Nat))
    (terms : List (Text × List Nat)) : Prop :=
  ∃ body, Record.Spells body (fields ⟨order, grams, terms⟩) ∧
    bytes = body ++ Record.encodeWord (Crc32.ofBytes body)

/-- Tokens that all have positions below a bound. -/
def Bounded (bound : Nat) (terms : List (Text × List Nat)) : Prop :=
  ∀ p ∈ terms, ∀ id ∈ p.2, id < bound

/-- The tokens of a file, where the last positions of a token count. -/
def posted (terms : List (Text × List Nat)) : Table (List Nat) :=
  terms.foldl (fun t p => t.insert p.1 p.2) []

/-! ## One meaning -/

theorem kinds_entryFields {α : Type} {value : α → Field} {kind : FieldKind}
    (hkind : ∀ a, (value a).kind = kind) (entries : List (Text × α)) :
    (entryFields value entries).map Field.kind =
      (List.replicate entries.length [FieldKind.text, kind]).flatten := by
  induction entries with
  | nil => rfl
  | cons e entries ih =>
    rw [List.length_cons, List.replicate_succ, List.flatten_cons, ← ih, ← hkind e.2]
    rfl

theorem entryFields_inj {α : Type} {value : α → Field}
    (hinj : ∀ a b, value a = value b → a = b) {entries entries' : List (Text × α)}
    (h : entryFields value entries = entryFields value entries') : entries = entries' := by
  induction entries generalizing entries' with
  | nil =>
    cases entries' with
    | nil => rfl
    | cons e' entries' => cases h
  | cons e entries ih =>
    cases entries' with
    | nil => cases h
    | cons e' entries' =>
      have hcons : ∀ (e : Text × α) entries, entryFields value (e :: entries) =
          .text e.1 :: value e.2 :: entryFields value entries := fun _ _ => rfl
      rw [hcons, hcons, List.cons.injEq, List.cons.injEq] at h
      obtain ⟨htext, hvalue, hrest⟩ := h
      rw [Prod.ext (Field.text.inj htext) (hinj _ _ hvalue), ih hrest]

/-- The entries of a table that stands in a file, if they are as many as another time. -/
theorem unique_entries {α : Type} {value : α → Field} {kind : FieldKind}
    (hkind : ∀ a, (value a).kind = kind) (hinj : ∀ a b, value a = value b → a = b)
    {bytes bytes' rest rest' : Bytes} {entries entries' : List (Text × α)}
    (h : Record.Spells bytes (entryFields value entries))
    (h' : Record.Spells bytes' (entryFields value entries'))
    (hlen : entries.length = entries'.length) (heq : bytes ++ rest = bytes' ++ rest') :
    entries = entries' ∧ rest = rest' := by
  have hkinds : (entryFields value entries).map Field.kind =
      (entryFields value entries').map Field.kind := by
    rw [kinds_entryFields hkind, kinds_entryFields hkind, hlen]
  obtain ⟨hfields, hrest⟩ := h.unique h' hkinds heq
  exact ⟨entryFields_inj hinj hfields, hrest⟩

/-- **A file holds one row of grams and one row of tokens**, whatever it is read for. -/
theorem Holds.unique {bytes : Bytes} {order order' : Nat} {grams grams' : List (Text × Nat)}
    {terms terms' : List (Text × List Nat)} (h : Holds bytes order grams terms)
    (h' : Holds bytes order' grams' terms') :
    order % Record.wordBound = order' % Record.wordBound ∧ grams = grams' ∧ terms = terms' := by
  obtain ⟨body, hspelled, hbytes⟩ := h
  obtain ⟨body', hspelled', hbytes'⟩ := h'
  have hbody : body = body' := (List.append_inj' (hbytes.symm.trans hbytes') rfl).1
  subst hbody
  rw [fields_eq, Record.spells_append_iff] at hspelled hspelled'
  obtain ⟨head, tables, rfl, hhead, htables⟩ := hspelled
  obtain ⟨head', tables', hsplit, hhead', htables'⟩ := hspelled'
  obtain ⟨hfields, rfl⟩ := hhead.unique hhead' rfl hsplit
  simp only [List.cons.injEq, Field.word.injEq, Field.varint.injEq, and_true, true_and] at hfields
  obtain ⟨horder, hgramCount⟩ := hfields
  -- the number of entries tells where a table ends
  have hvarint : ∀ n, (Field.varint n).kind = .varint := fun _ => rfl
  have hpostings : ∀ ids, (Field.postings ids).kind = .postings := fun _ => rfl
  rw [Record.spells_append_iff] at htables htables'
  obtain ⟨first, rest, rfl, hgrams, hterms⟩ := htables
  obtain ⟨first', rest', hsplit', hgrams', hterms'⟩ := htables'
  obtain ⟨rfl, rfl⟩ := unique_entries hvarint (fun _ _ => Field.varint.inj) hgrams hgrams'
    hgramCount hsplit'
  rw [← List.singleton_append, Record.spells_append_iff] at hterms hterms'
  obtain ⟨number, last, rfl, hnumber, hlast⟩ := hterms
  obtain ⟨number', last', hsplit'', hnumber', hlast'⟩ := hterms'
  obtain ⟨hcount, hend⟩ := hnumber.unique hnumber' rfl hsplit''
  have htermCount : terms.length = terms'.length := by simpa using hcount
  obtain ⟨rfl, -⟩ := unique_entries hpostings (fun _ _ => Field.postings.inj) hlast hlast'
    htermCount (congrArg (· ++ ([] : Bytes)) hend)
  exact ⟨horder, rfl, rfl⟩

/-! ## Reading -/

theorem sound_reading {α : Type} {spells : Bytes → α → Prop}
    {f : Reader → Except ReadFault (α × Reader)} (hf : Sound spells f) :
    Sound spells fun r => reading (f r) :=
  fun r a r' h => hf r a r' (reading_eq_ok_iff.1 h)

theorem sound_readGrams (n : Nat) :
    Sound (fun bytes grams => grams.length = n ∧ Record.Spells bytes (entryFields .varint grams))
      (readGrams n) := by
  induction n with
  | zero => exact sound_pure ⟨rfl, .nil⟩
  | succ n ih =>
    have hrest : ∀ e : Text × Nat, Sound (fun bytes grams => ∃ rest, grams = e :: rest ∧
        rest.length = n ∧ Record.Spells bytes (entryFields .varint rest))
        fun r => readGrams n r >>= fun p => (.ok (e :: p.1, p.2) : Except Fault _) := by
      intro e
      refine ih.image (e :: ·) ?_
      rintro bytes rest ⟨hlen, hspelled⟩
      exact ⟨rest, rfl, hlen, hspelled⟩
    have hfreq : ∀ gram : Text, Sound (fun bytes grams => ∃ freq rest,
        grams = (gram, freq) :: rest ∧ rest.length = n ∧
          Record.Spells bytes (.varint freq :: entryFields .varint rest))
        fun r => reading r.readVarint >>= fun p => readGrams n p.2 >>= fun q =>
          (.ok ((gram, p.1) :: q.1, q.2) : Except Fault _) := by
      intro gram
      refine (sound_reading sound_readVarint).bind (fun freq => hrest (gram, freq)) ?_
      rintro bytes freq bytes' grams hfreq ⟨rest, rfl, hlen, hspelled⟩
      exact ⟨freq, rest, rfl, hlen, .cons (.varint hfreq) hspelled⟩
    refine (sound_reading sound_readText).bind hfreq ?_
    rintro bytes gram bytes' grams hgram ⟨freq, rest, rfl, hlen, hspelled⟩
    exact ⟨by rw [List.length_cons, hlen], .cons hgram hspelled⟩

/-- **The tokens that are read** have positions below the bound only, and are posted one by one. -/
theorem sound_readPostings (bound : Nat) (known : Table (List Nat)) (n : Nat) :
    Sound (fun bytes t => ∃ terms, terms.length = n ∧
        Record.Spells bytes (entryFields .postings terms) ∧ Bounded bound terms ∧
          t = terms.foldl (fun t p => t.insert p.1 p.2) known)
      (readPostings bound known n) := by
  induction n generalizing known with
  | zero => exact sound_pure ⟨[], rfl, .nil, List.forall_mem_nil _, rfl⟩
  | succ n ih =>
    have hchecked : ∀ (token : Text) (ids : List Nat), Sound (fun bytes t =>
        (∀ id ∈ ids, id < bound) ∧ ∃ terms, terms.length = n ∧
          Record.Spells bytes (entryFields .postings terms) ∧ Bounded bound terms ∧
            t = terms.foldl (fun t p => t.insert p.1 p.2) (known.insert token ids))
        fun r => if ids.any (bound ≤ ·) then (.error .postingOutOfRange : Except Fault _)
          else readPostings bound (known.insert token ids) n r := by
      intro token ids
      refine sound_unless _ _ fun hany => (ih (known.insert token ids)).mono fun _ _ h => ⟨?_, h⟩
      intro id hid
      exact Nat.lt_of_not_le fun hle => hany (List.any_eq_true.2 ⟨id, hid, decide_eq_true hle⟩)
    have hids : ∀ token : Text, Sound (fun bytes t => ∃ ids terms, terms.length = n ∧
        Record.Spells bytes (.postings ids :: entryFields .postings terms) ∧
          Bounded bound ((token, ids) :: terms) ∧
            t = terms.foldl (fun t p => t.insert p.1 p.2) (known.insert token ids))
        fun r => reading r.readPostings >>= fun p =>
          if p.1.any (bound ≤ ·) then (.error .postingOutOfRange : Except Fault _)
          else readPostings bound (known.insert token p.1) n p.2 := by
      intro token
      refine (sound_reading Reader.sound_readPostings).bind (hchecked token) ?_
      rintro bytes ids bytes' t hspelled ⟨hbelow, terms, hlen, hterms, hbound, rfl⟩
      refine ⟨ids, terms, hlen, .cons hspelled hterms, ?_, rfl⟩
      exact List.forall_mem_cons.2 ⟨hbelow, hbound⟩
    refine (sound_reading sound_readText).bind hids ?_
    rintro bytes token bytes' t htoken ⟨ids, terms, hlen, hspelled, hbound, rfl⟩
    exact ⟨(token, ids) :: terms, by rw [List.length_cons, hlen], .cons htoken hspelled, hbound,
      rfl⟩

/-- **The order that is read** stands behind the mark and the version. -/
theorem sound_readOrder :
    Sound (fun bytes n => n < Record.wordBound ∧
      Record.Spells bytes [.word mark, .word version, .word n]) readOrder := by
  have hword : Sound (fun bytes n => n < Record.wordBound ∧ Field.Spells bytes (.word n))
      fun r => reading r.readWord := by
    refine (sound_reading sound_readWord).mono fun bytes n hspelled => ⟨?_, hspelled⟩
    cases hspelled with
    | word hlen => exact wordOf_lt hlen
  have hversion : ∀ v, Sound (fun bytes n =>
      v = version ∧ n < Record.wordBound ∧ Field.Spells bytes (.word n))
      fun r => if v ≠ version then .error (.badVersion v) else reading r.readWord := by
    intro v
    refine sound_unless _ _ fun hv => hword.mono fun _ _ h => ?_
    exact ⟨Classical.not_not.1 hv, h⟩
  have hmark : ∀ m, Sound (fun bytes n => m = mark ∧ n < Record.wordBound ∧
      Record.Spells bytes [.word version, .word n])
      fun r => if m ≠ mark then .error .badMark else
        reading r.readWord >>= fun p =>
          if p.1 ≠ version then .error (.badVersion p.1) else reading p.2.readWord := by
    intro m
    refine sound_unless _ _ fun hm => hword.bind hversion ?_
    rintro bytes v bytes' n ⟨-, hv⟩ ⟨rfl, hlt, hn⟩
    exact ⟨Classical.not_not.1 hm, hlt, .cons hv (Record.spells_single hn)⟩
  refine hword.bind hmark ?_
  rintro bytes m bytes' n ⟨-, hm⟩ ⟨rfl, hlt, hn⟩
  exact ⟨hlt, .cons hm hn⟩

/-- **The tables that are read** hold the grams and the tokens that come next. -/
theorem sound_readTables (order : Nat) :
    Sound (fun bytes s => s.order = order ∧ ∃ terms,
        Record.Spells bytes (.varint s.grams.length :: (entryFields .varint s.grams ++
          .varint terms.length :: entryFields .postings terms)) ∧
        Bounded s.grams.length terms ∧ s.postings = posted terms)
      (readTables order) := by
  have hcount : Sound Varint.Spells fun r => reading r.readVarint := sound_reading sound_readVarint
  have hpostings : ∀ (bound : Nat) (grams : List (Text × Nat)) (termCount : Nat),
      Sound (fun bytes s => s.order = order ∧ s.grams = grams ∧ ∃ terms, terms.length = termCount ∧
        Record.Spells bytes (entryFields .postings terms) ∧ Bounded bound terms ∧
          s.postings = posted terms)
      fun r => readPostings bound [] termCount r >>= fun p =>
        (.ok (Segment.mk order grams p.1, p.2) : Except Fault (Segment × Reader)) := by
    intro bound grams termCount
    refine (sound_readPostings bound [] termCount).image (Segment.mk order grams) ?_
    rintro bytes t ⟨terms, hlen, hspelled, hbound, rfl⟩
    exact ⟨rfl, rfl, terms, hlen, hspelled, hbound, rfl⟩
  have hterms : ∀ (bound : Nat) (grams : List (Text × Nat)),
      Sound (fun bytes s => s.order = order ∧ s.grams = grams ∧ ∃ terms,
        Record.Spells bytes (.varint terms.length :: entryFields .postings terms) ∧
          Bounded bound terms ∧ s.postings = posted terms)
      fun r => reading r.readVarint >>= fun p => readPostings bound [] p.1 p.2 >>= fun q =>
        (.ok (Segment.mk order grams q.1, q.2) : Except Fault (Segment × Reader)) := by
    intro bound grams
    refine hcount.bind (hpostings bound grams) ?_
    rintro bytes termCount bytes' s hspelled ⟨horder, hgrams, terms, rfl, hrest, hbound, hposted⟩
    exact ⟨horder, hgrams, terms, .cons (.varint hspelled) hrest, hbound, hposted⟩
  have hgrams : ∀ gramCount : Nat, Sound (fun bytes s => s.order = order ∧
      s.grams.length = gramCount ∧ ∃ terms, Record.Spells bytes (entryFields .varint s.grams ++
        .varint terms.length :: entryFields .postings terms) ∧ Bounded gramCount terms ∧
          s.postings = posted terms)
      fun r => readGrams gramCount r >>= fun p => reading p.2.readVarint >>= fun q =>
        readPostings gramCount [] q.1 q.2 >>= fun t =>
          (.ok (Segment.mk order p.1 t.1, t.2) : Except Fault (Segment × Reader)) := by
    intro gramCount
    refine (sound_readGrams gramCount).bind (hterms gramCount) ?_
    rintro bytes grams bytes' s ⟨hlen, hspelled⟩ ⟨horder, rfl, terms, hrest, hbound, hposted⟩
    exact ⟨horder, hlen, terms, hspelled.append hrest, hbound, hposted⟩
  refine hcount.bind hgrams ?_
  rintro bytes gramCount bytes' s hspelled ⟨horder, rfl, terms, hrest, hbound, hposted⟩
  exact ⟨horder, terms, .cons (.varint hspelled) hrest, hbound, hposted⟩

/-- **The segment that is read** from a file, of whatever order, is what stands there. -/
theorem sound_readContent :
    Sound (fun bytes s => ∃ terms, Record.Spells bytes (fields ⟨s.order, s.grams, terms⟩) ∧
        Bounded s.grams.length terms ∧ s.postings = posted terms)
      readContent := by
  refine sound_readOrder.bind sound_readTables ?_
  rintro head n tables s ⟨hlt, hhead⟩ ⟨rfl, terms, htables, hbound, hposted⟩
  refine ⟨terms, ?_, hbound, hposted⟩
  rw [fields_eq, Nat.mod_eq_of_lt hlt]
  exact hhead.append htables

/-- **What a file holds that is read as a segment**: the segment's grams, in the order in which they
stand there, and tokens whose positions are all those of grams. -/
theorem holds_of_decode {order : Nat} {bytes : Bytes} {s : Segment}
    (h : decode order bytes = .ok s) :
    ∃ terms, Holds bytes order s.grams terms ∧
      Bounded s.grams.length terms ∧ s.postings = posted terms := by
  obtain ⟨rfl, r, r', hcontent, hverify⟩ := decode_eq_ok_iff.1 h
  obtain ⟨body, hgoes, terms, hspelled, hbound, hposted⟩ := sound_readContent _ s r hcontent
  have hplace : r = behind body r.rest := by
    have hrest : bytes = body ++ r.rest := hgoes.rest
    have hplace := hgoes.place
    rw [ofBytes_eq_behind, hrest, after_behind] at hplace
    exact hplace
  rw [hplace] at hverify
  have hend : r.rest = Record.encodeWord (Crc32.ofBytes body) := verify_eq_true_iff.1 ⟨r', hverify⟩
  have hbytes : bytes = body ++ r.rest := hgoes.rest
  exact ⟨terms, ⟨body, hspelled, hend ▸ hbytes⟩, hbound, hposted⟩

end Segment

end Kompositum

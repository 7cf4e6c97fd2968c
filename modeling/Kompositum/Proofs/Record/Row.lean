import Kompositum.Proofs.Outcome
import Kompositum.Proofs.Record.Reader
import Kompositum.Record.Writer

/-!
# Rows of values there and back

Values are written one after the other, with nothing between them. Read by their kinds in the same
order they come back, each of them up to where the next one begins, and the checksum at the end is
that of all their bytes.

* `Field.Fits`: the values that have room in their bytes.
* `Reader.readAll`: the next values of some kinds.
* `Record.readAll_encode`: a record there and back.
-/

namespace Kompositum

/-- **The values that have room in their bytes.** Numbers of a row may come in any order. -/
def Field.Fits : Field → Prop
  | word n => n < Record.wordBound
  | varint n => n ≤ Count.largest
  | text t => Utf8.size t ≤ Count.largest
  | raw _ => True
  | postings ids => ids.length ≤ Count.largest ∧ ∀ id ∈ ids, id < Record.wordBound

instance : DecidablePred Field.Fits
  | .word n => inferInstanceAs (Decidable (n < Record.wordBound))
  | .varint n => inferInstanceAs (Decidable (n ≤ Count.largest))
  | .text t => inferInstanceAs (Decidable (Utf8.size t ≤ Count.largest))
  | .raw _ => inferInstanceAs (Decidable True)
  | .postings ids =>
    inferInstanceAs (Decidable (ids.length ≤ Count.largest ∧ ∀ id ∈ ids, id < Record.wordBound))

namespace Reader

/-- **The next values of some kinds**, one after the other. -/
def readAll : List FieldKind → Reader → Except ReadFault (List Field × Reader)
  | [], r => .ok ([], r)
  | kind :: kinds, r => do
    let (field, r) ← r.read kind
    let (fields, r) ← readAll kinds r
    return (field :: fields, r)

/-- **A value there and back**, whatever stands before and after it. -/
theorem read_encode (past rest : Bytes) {field : Field} (h : field.Fits) :
    (behind past (field.encode ++ rest)).read field.kind =
      .ok (field, behind (past ++ field.encode) rest) := by
  cases field with
  | word n =>
    change (readWord (behind past (Record.encodeWord n ++ rest))).map
      (fun p => (Field.word p.1, p.2)) = _
    rw [readWord_encode past rest h]
    rfl
  | varint n =>
    change (readVarint (behind past (Varint.encode n ++ rest))).map _ = _
    rw [readVarint_encode past rest h]
    rfl
  | text t =>
    change (readText (behind past (Record.encodeText t ++ rest))).map _ = _
    rw [readText_encode past rest h]
    rfl
  | raw bytes =>
    change (readRaw bytes.length (behind past (bytes ++ rest))).map _ = _
    rw [readRaw_append past rest bytes]
    rfl
  | postings ids =>
    change (readPostings (behind past (Record.encodePostings ids ++ rest))).map _ = _
    rw [readPostings_encode past rest h.1 h.2]
    rfl

/-- **A row of values there and back.** -/
theorem readAll_encode_append (past rest : Bytes) {fields : List Field}
    (h : ∀ f ∈ fields, f.Fits) :
    (behind past (fields.flatMap Field.encode ++ rest)).readAll (fields.map Field.kind) =
      .ok (fields, behind (past ++ fields.flatMap Field.encode) rest) := by
  induction fields generalizing past with
  | nil =>
    rw [List.flatMap_nil, List.append_nil]
    rfl
  | cons f fields ih =>
    have hfirst := read_encode past (fields.flatMap Field.encode ++ rest) (h f List.mem_cons_self)
    have hrest := ih (past ++ f.encode) fun g hg => h g (List.mem_cons_of_mem f hg)
    rw [List.flatMap_cons, List.append_assoc, List.map_cons, readAll, hfirst]
    simp only [ok_bind]
    rw [hrest, List.append_assoc]
    rfl

end Reader

namespace Record

open Reader

/-- **A record there and back.** Read by their kinds, its values come back one by one: after some
of them the reader stands where the next one begins, and after all of them at their checksum. -/
theorem readAll_encode {fields : List Field} (h : ∀ f ∈ fields, f.Fits) :
    (∀ first rest, first ++ rest = fields →
      (Reader.ofBytes (encode fields)).readAll (first.map Field.kind) =
        .ok (first, behind (first.flatMap Field.encode) (rest.flatMap Field.encode ++
          encodeWord (Crc32.ofBytes (fields.flatMap Field.encode))))) ∧
      ∃ r r', (Reader.ofBytes (encode fields)).readAll (fields.map Field.kind) = .ok (fields, r) ∧
        r.verify = .ok (true, r') := by
  have hread : ∀ first rest, first ++ rest = fields →
      (Reader.ofBytes (encode fields)).readAll (first.map Field.kind) =
        .ok (first, behind (first.flatMap Field.encode) (rest.flatMap Field.encode ++
          encodeWord (Crc32.ofBytes (fields.flatMap Field.encode)))) := by
    rintro first rest rfl
    have hfirst := readAll_encode_append [] (rest.flatMap Field.encode ++
      encodeWord (Crc32.ofBytes ((first ++ rest).flatMap Field.encode)))
      fun f hf => h f (List.mem_append_left rest hf)
    have hbytes : encode (first ++ rest) = first.flatMap Field.encode ++
        (rest.flatMap Field.encode ++
          encodeWord (Crc32.ofBytes ((first ++ rest).flatMap Field.encode))) := by
      rw [encode_eq, List.flatMap_append, List.append_assoc]
    rw [ofBytes_eq_behind, hbytes, hfirst, List.nil_append]
  refine ⟨hread, ?_⟩
  -- behind all values there is nothing but the checksum
  have hall := hread fields [] (List.append_nil fields)
  obtain ⟨r', hverify⟩ := verify_encode (fields.flatMap Field.encode)
  exact ⟨_, r', hall, hverify⟩

/-- A record with a value of every kind; the numbers of its row go up and down. -/
def mixed : List Field :=
  [.word 0x4E475347, .varint Count.largest, .text "Häuser", .raw [0, 0xFF],
    .postings [7, 3, 0xFFFFFFFF, 0], .text [], .postings []]

theorem readAll_encode_mixed : (∀ f ∈ mixed, f.Fits) ∧
    ∃ r r', (Reader.ofBytes (encode mixed)).readAll (mixed.map Field.kind) = .ok (mixed, r) ∧
      r.verify = .ok (true, r') := by
  have hfits : ∀ f ∈ mixed, f.Fits := by decide
  exact ⟨hfits, (readAll_encode hfits).2⟩

end Record

end Kompositum

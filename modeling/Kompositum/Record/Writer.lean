import Kompositum.Record.Field

/-!
# Writing records

A writer puts one value behind the other into a file. It keeps the running checksum of what it has
written, which goes to the end of the file.

* `Writer.write`: a value put behind those already written.
* `Writer.close`: the bytes of the file, with the checksum at the end.
* `Record.encode`: the bytes of a record.
-/

namespace Kompositum

/-- **A file that is being written**: its bytes so far and their running checksum. -/
structure Writer where
  written : Bytes
  crc : Crc32
  /-- The checksum is in step with the bytes. -/
  crc_eq : crc = Crc32.start.update written

namespace Writer

/-- The beginning of a file. -/
def empty : Writer := ⟨[], .start, rfl⟩

/-- Some more bytes. -/
def writeRaw (w : Writer) (bytes : Bytes) : Writer where
  written := w.written ++ bytes
  crc := w.crc.update bytes
  crc_eq := by
    unfold Crc32.update
    rw [w.crc_eq, List.foldl_append]
    rfl

/-- A number below 2³², in four bytes. -/
def writeWord (w : Writer) (n : Nat) : Writer := w.writeRaw (Record.encodeWord n)

/-- A number of variable length. -/
def writeVarint (w : Writer) (n : Nat) : Writer := w.writeRaw (Varint.encode n)

/-- A text, after the number of its bytes. -/
def writeText (w : Writer) (t : Text) : Writer :=
  let bytes := Utf8.encode t
  (w.writeVarint bytes.length).writeRaw bytes

/-- The distances between neighbours, from `previous` on; going down wraps around at 2³². -/
def writeDistances (previous : Nat) : List Nat → Writer → Writer
  | [], w => w
  | id :: ids, w =>
    writeDistances id ids (w.writeVarint ((id + Record.wordBound - previous) % Record.wordBound))

/-- A row of numbers, after their count. -/
def writePostings (w : Writer) (ids : List Nat) : Writer :=
  writeDistances 0 ids (w.writeVarint ids.length)

/-- **A value put behind those already written.** -/
def write (w : Writer) : Field → Writer
  | .word n => w.writeWord n
  | .varint n => w.writeVarint n
  | .text t => w.writeText t
  | .raw bytes => w.writeRaw bytes
  | .postings ids => w.writePostings ids

/-- **The bytes of the file**, with the checksum at the end. The checksum itself does not count as
written. -/
def close (w : Writer) : Bytes := w.written ++ Record.encodeWord w.crc.value

end Writer

/-- **The bytes of a record**: those of its values, and their checksum. -/
def Record.encode (fields : List Field) : Bytes := (fields.foldl Writer.write .empty).close

/-! ## What has been written -/

namespace Writer

theorem written_writeDistances (previous : Nat) (ids : List Nat) (w : Writer) :
    (writeDistances previous ids w).written =
      w.written ++ (Record.distances previous ids).flatMap Varint.encode := by
  induction ids generalizing previous w with
  | nil =>
    rw [Record.distances, List.flatMap_nil, List.append_nil]
    rfl
  | cons id ids ih =>
    rw [writeDistances, ih, Record.distances, List.flatMap_cons, ← List.append_assoc]
    rfl

/-- **A value adds its bytes** to those already written. -/
theorem written_write (w : Writer) (f : Field) : (w.write f).written = w.written ++ f.encode := by
  cases f with
  | word n => rfl
  | varint n => rfl
  | text t => exact List.append_assoc _ _ _
  | raw bytes => rfl
  | postings ids =>
    change (w.writePostings ids).written = w.written ++ Record.encodePostings ids
    unfold writePostings Record.encodePostings
    rw [written_writeDistances, ← List.append_assoc]
    rfl

theorem written_foldl_write (fields : List Field) (w : Writer) :
    (fields.foldl write w).written = w.written ++ fields.flatMap Field.encode := by
  induction fields generalizing w with
  | nil =>
    rw [List.flatMap_nil, List.append_nil]
    rfl
  | cons f fields ih =>
    rw [List.foldl_cons, ih, written_write, List.flatMap_cons, List.append_assoc]

end Writer

/-- **The bytes of a record** are those of its values and the checksum of all of them. -/
theorem Record.encode_eq (fields : List Field) :
    encode fields = fields.flatMap Field.encode ++
      encodeWord (Crc32.ofBytes (fields.flatMap Field.encode)) := by
  have hwritten := Writer.written_foldl_write fields .empty
  have hcrc := (fields.foldl Writer.write .empty).crc_eq
  unfold encode Writer.close
  rw [hcrc, hwritten]
  rfl

end Kompositum

import Kompositum.Count
import Kompositum.Record.Field

/-!
# Reading records

A reader goes through the bytes of a file. It keeps the number of bytes read and their running
checksum, so that the end of the record can be checked.

* `Reader.read`: the next value of a kind.
* `Reader.verify`: whether the file ends here with the checksum of what has been read.
-/

namespace Kompositum

/-- Why a value cannot be read. -/
inductive ReadFault where
  /-- The file ends inside the value. -/
  | ended
  | varint (fault : Varint.Fault)
  /-- A text would end after the file. -/
  | textTooLong (length : Nat)
  /-- A text would end after the file, at a position beyond 2⁶⁴. -/
  | unaddressable (length : Nat)
  | utf8 (fault : Utf8.Fault)
  /-- The checksum is not where the file ends. -/
  | misplacedChecksum (position size : Nat)
deriving DecidableEq, Repr

/-- The wording of a fault. -/
def ReadFault.message : ReadFault → Text
  | ended => "failed to fill whole buffer"
  | varint fault => fault.message
  | textTooLong n | unaddressable n =>
    "String length " ++ Text.ofNat n ++ " runs past end of file"
  | utf8 fault => "Invalid UTF-8: " ++ fault.message
  | misplacedChecksum position size =>
    "Checksum expected at offset " ++ Text.ofNat position ++ ", file has " ++ Text.ofNat size ++
      " bytes"

/-- A place in a file: the bytes after it, the number of those before it and their checksum, and
the size of the file. -/
structure Reader where
  rest : Bytes
  position : Nat
  crc : Crc32
  size : Nat
deriving DecidableEq, Repr

namespace Reader

/-- The beginning of a file. -/
def ofBytes (bytes : Bytes) : Reader := ⟨bytes, 0, .start, bytes.length⟩

/-- The place after the next bytes, which are `bytes`, where `rest` is what follows them. -/
def after (r : Reader) (bytes rest : Bytes) : Reader :=
  { r with rest, position := r.position + bytes.length, crc := r.crc.update bytes }

/-- The next `n` bytes. -/
def readRaw (n : Nat) (r : Reader) : Except ReadFault (Bytes × Reader) :=
  let bytes := r.rest.take n
  if bytes.length < n then .error .ended else .ok (bytes, r.after bytes (r.rest.drop n))

/-- The number that four bytes hold, lowest first. -/
def wordOf (bytes : Bytes) : Nat := bytes.foldr (fun b n => b.toNat + 0x100 * n) 0

/-- The next number of four bytes. -/
def readWord (r : Reader) : Except ReadFault (Nat × Reader) := do
  let (bytes, r) ← r.readRaw 4
  return (wordOf bytes, r)

/-- Bytes up to the first one without its high bit, but at most `n` of them; nothing if the bytes
end before. -/
def varintBytes? : Nat → Bytes → Option Bytes
  | 0, _ => some []
  | _, [] => none
  | n + 1, b :: rest => if b < 128 then some [b] else (varintBytes? n rest).map (b :: ·)

/-- The next number of variable length. One byte more is looked at than such a number may have. -/
def readVarint (r : Reader) : Except ReadFault (Nat × Reader) :=
  match varintBytes? (Varint.maxLength + 1) r.rest with
  | none => .error .ended
  | some bytes =>
    match Varint.decode bytes with
    | .error fault => .error (.varint fault)
    | .ok (n, _) => .ok (n, r.after bytes (r.rest.drop bytes.length))

/-- The next text. -/
def readText (r : Reader) : Except ReadFault (Text × Reader) := do
  let (n, r) ← r.readVarint
  if r.size < r.position + n then
    .error (if Count.largest < r.position + n then .unaddressable n else .textTooLong n)
  else
    let (bytes, r) ← r.readRaw n
    match Utf8.decode bytes with
    | .ok t => return (t, r)
    | .error fault => .error (.utf8 fault)

/-- The next `n` distances, as the numbers that they lead to from `previous` on. -/
def readDistances (previous : Nat) : Nat → Reader → Except ReadFault (List Nat × Reader)
  | 0, r => .ok ([], r)
  | n + 1, r => do
    let (d, r) ← r.readVarint
    let id := (previous + d) % Record.wordBound
    let (ids, r) ← readDistances id n r
    return (id :: ids, r)

/-- The next row of numbers. -/
def readPostings (r : Reader) : Except ReadFault (List Nat × Reader) := do
  let (n, r) ← r.readVarint
  readDistances 0 n r

/-- **Whether the file ends here with the checksum of what has been read.** The checksum itself does
not count as read, but nothing is left after it. -/
def verify (r : Reader) : Except ReadFault (Bool × Reader) :=
  if r.position + 4 ≠ r.size then .error (.misplacedChecksum r.position r.size)
  else do
    let (stored, after) ← r.readWord
    return (stored == r.crc.value, { r with rest := after.rest })

end Reader

/-- The kinds of values; bytes are read in a given number. -/
inductive FieldKind where
  | word | varint | text | raw (n : Nat) | postings
deriving DecidableEq, Repr

/-- The kind of a value. -/
def Field.kind : Field → FieldKind
  | word _ => .word
  | varint _ => .varint
  | text _ => .text
  | raw bytes => .raw bytes.length
  | postings _ => .postings

/-- **The next value of a kind.** -/
def Reader.read (r : Reader) : FieldKind → Except ReadFault (Field × Reader)
  | .word => r.readWord.map fun (n, r) => (.word n, r)
  | .varint => r.readVarint.map fun (n, r) => (.varint n, r)
  | .text => r.readText.map fun (t, r) => (.text t, r)
  | .raw n => (r.readRaw n).map fun (b, r) => (.raw b, r)
  | .postings => r.readPostings.map fun (ids, r) => (.postings ids, r)

end Kompositum

import Kompositum.Ngram.Segment
import Kompositum.Record.Reader
import Kompositum.Record.Writer

/-!
# Segment files

A segment is kept as a record: a mark, the version of the format and the order; the number of grams
and every gram with its frequency; the number of tokens and every token with its positions.

* `Segment.encode`: the bytes of a segment.
* `Segment.decode`: the segment of some bytes, which has to be of the order asked for.
-/

namespace Kompositum.Segment

/-- The mark at the beginning of every segment file, `NGSG`. -/
def mark : Nat := 0x4E475347

/-- The version of the format. -/
def version : Nat := 1

/-- The name of the file that holds the segment of an order. -/
def fileName (order : Nat) : Text := "order-" ++ Text.ofNat order ++ ".seg"

/-- Whether a file name is that of a segment. -/
def isFileName (name : Text) : Bool := Text.startsWith "order-" name && Text.endsWith ".seg" name

/-- The values of a segment file. -/
def fields (s : Segment) : List Field :=
  [.word mark, .word version, .word (s.order % Record.wordBound), .varint s.grams.length] ++
    s.grams.flatMap (fun (gram, n) => [.text gram, .varint n]) ++
    [.varint s.postings.length] ++
    s.postings.flatMap fun (token, ids) => [.text token, .postings ids]

/-- **The bytes of a segment.** -/
def encode (s : Segment) : Bytes := Record.encode s.fields

/-- Why bytes are no segment of an order. -/
inductive Fault where
  | read (fault : ReadFault)
  | badMark
  | badVersion (version : Nat)
  | otherOrder (order : Nat)
  | postingOutOfRange
  | wrongChecksum
deriving DecidableEq, Repr

/-- The wording of a fault that is not one of reading. -/
def Fault.message : Fault → Text
  | .read fault => fault.message
  | .badMark => "bad magic"
  | .badVersion v => "unsupported version " ++ Text.ofNat v
  | .otherOrder n => "holds order " ++ Text.ofNat n
  | .postingOutOfRange => "posting out of range"
  | .wrongChecksum => "checksum mismatch"

/-- What a step of reading yields, or its fault. -/
def reading {α : Type} : Except ReadFault α → Except Fault α
  | .ok a => .ok a
  | .error fault => .error (.read fault)

/-- The next `n` grams with their frequencies. -/
def readGrams : Nat → Reader → Except Fault (List (Text × Nat) × Reader)
  | 0, r => .ok ([], r)
  | n + 1, r => do
    let (gram, r) ← reading r.readText
    let (freq, r) ← reading r.readVarint
    let (rest, r) ← readGrams n r
    return ((gram, freq) :: rest, r)

/-- The next `n` tokens with their positions, of which none may reach `bound`. A token that comes
again replaces its earlier positions. -/
def readPostings (bound : Nat) (known : Text.Table (List Nat)) :
    Nat → Reader → Except Fault (Text.Table (List Nat) × Reader)
  | 0, r => .ok (known, r)
  | n + 1, r => do
    let (token, r) ← reading r.readText
    let (ids, r) ← reading r.readPostings
    if ids.any (bound ≤ ·) then .error .postingOutOfRange
    else readPostings bound (known.insert token ids) n r

/-- **The segment of some bytes**, which has to be of the order asked for. -/
def decode (order : Nat) (bytes : Bytes) : Except Fault Segment := do
  let r := Reader.ofBytes bytes
  let (m, r) ← reading r.readWord
  if m ≠ mark then .error .badMark
  let (v, r) ← reading r.readWord
  if v ≠ version then .error (.badVersion v)
  let (stored, r) ← reading r.readWord
  if stored ≠ order then .error (.otherOrder stored)
  let (gramCount, r) ← reading r.readVarint
  let (grams, r) ← readGrams gramCount r
  let (termCount, r) ← reading r.readVarint
  let (postings, r) ← readPostings gramCount [] termCount r
  let (intact, _) ← reading r.verify
  if intact then return ⟨order, grams, postings⟩ else .error .wrongChecksum

end Kompositum.Segment

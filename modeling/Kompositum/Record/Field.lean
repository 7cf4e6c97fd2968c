import Kompositum.Record.Crc32
import Kompositum.Record.Varint
import Kompositum.Text.Utf8

/-!
# The values of a record

A record is a row of typed values without separators, followed by the checksum of their bytes.

* `Field`: a value.
* `Field.encode`: the bytes of a value.
-/

namespace Kompositum

/-- A value of a record. -/
inductive Field where
  /-- A number below 2³², in four bytes. -/
  | word (n : Nat)
  /-- A number below 2⁶⁴, in as many bytes as it needs. -/
  | varint (n : Nat)
  /-- A text, after the number of its bytes. -/
  | text (t : Text)
  /-- Bytes as they are. -/
  | raw (bytes : Bytes)
  /-- Numbers below 2³², after their count, each as the distance from the one before it. -/
  | postings (ids : List Nat)
deriving DecidableEq, Repr

namespace Record

/-- The first number that four bytes cannot hold, 2³². -/
def wordBound : Nat := 0x100000000

/-- A number below 2³² in four bytes, lowest first. -/
def encodeWord (n : Nat) : Bytes :=
  [n.toUInt8, (n / 0x100).toUInt8, (n / 0x10000).toUInt8, (n / 0x1000000).toUInt8]

/-- A text after the number of its bytes. -/
def encodeText (t : Text) : Bytes :=
  let bytes := Utf8.encode t
  Varint.encode bytes.length ++ bytes

/-- The distances between neighbours, from `previous` on; going down wraps around at 2³². -/
def distances (previous : Nat) : List Nat → List Nat
  | [] => []
  | id :: ids => (id + wordBound - previous) % wordBound :: distances id ids

/-- Numbers after their count, as distances. -/
def encodePostings (ids : List Nat) : Bytes :=
  Varint.encode ids.length ++ (distances 0 ids).flatMap Varint.encode

end Record

/-- **The bytes of a value.** -/
def Field.encode : Field → Bytes
  | word n => Record.encodeWord n
  | varint n => Varint.encode n
  | text t => Record.encodeText t
  | raw bytes => bytes
  | postings ids => Record.encodePostings ids

end Kompositum

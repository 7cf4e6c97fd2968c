import Kompositum.Text.Basic

/-!
# The CRC-32 checksum

Bytes are read as a polynomial over two elements, lowest bit first; the checksum is the remainder
of its division by a fixed polynomial of degree 32, with all bits of the register set before the
first byte and inverted after the last one.

* `Crc32.update`: the register after some more bytes.
* `Crc32.ofBytes`: the checksum of some bytes.
-/

namespace Kompositum

/-- The register of a running checksum. -/
structure Crc32 where
  register : BitVec 32
deriving DecidableEq, Repr

namespace Crc32

/-- The divisor without its leading coefficient, lowest power at the highest bit. -/
def divisor : BitVec 32 := 0xEDB88320#32

/-- The register after one bit. -/
def step (r : BitVec 32) : BitVec 32 := if r.getLsbD 0 then (r >>> 1) ^^^ divisor else r >>> 1

/-- The register after one byte. -/
def push (s : Crc32) (b : UInt8) : Crc32 :=
  ⟨step (step (step (step (step (step (step (step (s.register ^^^ b.toBitVec.zeroExtend 32))))))))⟩

/-- The register before the first byte. -/
def start : Crc32 := ⟨BitVec.allOnes 32⟩

/-- **The register after some more bytes.** -/
def update (s : Crc32) (bytes : Bytes) : Crc32 := bytes.foldl push s

/-- The checksum of the bytes so far. -/
def value (s : Crc32) : Nat := (~~~s.register).toNat

/-- **The checksum of some bytes.** -/
def ofBytes (bytes : Bytes) : Nat := (start.update bytes).value

end Crc32

end Kompositum

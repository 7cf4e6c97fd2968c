import Kompositum.Text.Basic

/-!
# Numbers of variable length

A number below 2⁶⁴ is written in groups of seven bits, lowest first, one to a byte; every byte but
the last has its high bit set. Ten bytes always suffice.

* `Varint.encode`: the bytes of a number.
* `Varint.decode`: the number at the beginning of some bytes, and how many of them it takes.
-/

namespace Kompositum.Varint

/-- **The bytes of a number.** -/
def encode (n : Nat) : Bytes :=
  if n < 128 then [n.toUInt8] else (128 + n % 128).toUInt8 :: encode (n / 128)
termination_by n

/-- Why bytes begin with no number. -/
inductive Fault where
  /-- The number would not be below 2⁶⁴. -/
  | overflow
  /-- The bytes end inside the number. -/
  | truncated
deriving DecidableEq, Repr

/-- The wording of a fault. -/
def Fault.message : Fault → Text
  | .overflow => "varint overflows u64"
  | .truncated => "truncated varint"

/-- The greatest number of bytes that a number takes. -/
def maxLength : Nat := 10

/-- The number whose first `i` groups make up `value`. Nine groups leave one bit for the tenth. -/
def decodeFrom (i value : Nat) : Bytes → Except Fault (Nat × Nat)
  | [] => .error (if i < maxLength then .truncated else .overflow)
  | b :: rest =>
    let group := b.toNat % 128
    if maxLength ≤ i || i + 1 == maxLength && 1 < group then .error .overflow
    else
      let value := value + group * Nat.pow 128 i
      if b < 128 then .ok (value, i + 1) else decodeFrom (i + 1) value rest

/-- **The number at the beginning of some bytes**, and how many of them it takes. -/
def decode (bytes : Bytes) : Except Fault (Nat × Nat) := decodeFrom 0 0 bytes

end Kompositum.Varint

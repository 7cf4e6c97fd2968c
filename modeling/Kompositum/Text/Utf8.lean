import Kompositum.Text.Basic

/-!
# UTF-8

* `encode`: the bytes of a text.
* `decode`: the text of some bytes, or the place and the length of the first fault.
-/

namespace Kompositum.Utf8

/-- The bytes of one character: seven bits in one byte, or six in each byte after the first. -/
def encodeChar (c : Char) : Bytes :=
  let n := c.toNat
  let tail (m : Nat) : UInt8 := (0x80 + m % 64).toUInt8
  if n < 0x80 then [n.toUInt8]
  else if n < 0x800 then [(0xC0 + n / 0x40).toUInt8, tail n]
  else if n < 0x10000 then [(0xE0 + n / 0x1000).toUInt8, tail (n / 0x40), tail n]
  else [(0xF0 + n / 0x40000).toUInt8, tail (n / 0x1000), tail (n / 0x40), tail n]

/-- **The bytes of a text.** -/
def encode (t : Text) : Bytes := t.flatMap encodeChar

/-- Why bytes are no text, with the index of the first byte that belongs to no character. -/
inductive Fault where
  /-- So many bytes there begin no character. -/
  | malformed (index length : Nat)
  /-- The bytes end inside a character. -/
  | incomplete (index : Nat)
deriving DecidableEq, Repr

/-- The wording of a fault. -/
def Fault.message : Fault → Text
  | .malformed i n =>
    "invalid utf-8 sequence of " ++ Text.ofNat n ++ " bytes from index " ++ Text.ofNat i
  | .incomplete i => "incomplete utf-8 byte sequence from index " ++ Text.ofNat i

/-- Whether a byte may continue a character. -/
def isTail (b : UInt8) : Bool := 0x80 ≤ b && b ≤ 0xBF

/-- Whether two bytes may begin a character of three bytes: no code point has a shorter form or
is a surrogate. -/
def begins3 (a b : UInt8) : Bool :=
  if a == 0xE0 then 0xA0 ≤ b && b ≤ 0xBF
  else if a == 0xED then 0x80 ≤ b && b ≤ 0x9F
  else isTail b

/-- Whether two bytes may begin a character of four bytes: no code point has a shorter form or
lies above U+10FFFF. -/
def begins4 (a b : UInt8) : Bool :=
  if a == 0xF0 then 0x90 ≤ b && b ≤ 0xBF
  else if a == 0xF4 then 0x80 ≤ b && b ≤ 0x8F
  else isTail b

/-- The character of a leading byte without its mark and of the bytes that continue it. -/
def assemble (lead : Nat) (tails : Bytes) : Char :=
  Char.ofNat (tails.foldl (fun n b => n * 64 + (b.toNat - 0x80)) lead)

/-- The text of the bytes from index `i` on. -/
def decodeFrom (i : Nat) : Bytes → Except Fault Text
  | [] => .ok []
  | a :: r1 =>
    if a < 0x80 then return Char.ofNat a.toNat :: (← decodeFrom (i + 1) r1)
    else if 0xC2 ≤ a && a ≤ 0xDF then
      match r1 with
      | [] => .error (.incomplete i)
      | b :: r2 =>
        if isTail b then return assemble (a.toNat - 0xC0) [b] :: (← decodeFrom (i + 2) r2)
        else .error (.malformed i 1)
    else if 0xE0 ≤ a && a ≤ 0xEF then
      match r1 with
      | [] => .error (.incomplete i)
      | b :: r2 =>
        if !begins3 a b then .error (.malformed i 1)
        else match r2 with
          | [] => .error (.incomplete i)
          | c :: r3 =>
            if isTail c then return assemble (a.toNat - 0xE0) [b, c] :: (← decodeFrom (i + 3) r3)
            else .error (.malformed i 2)
    else if 0xF0 ≤ a && a ≤ 0xF4 then
      match r1 with
      | [] => .error (.incomplete i)
      | b :: r2 =>
        if !begins4 a b then .error (.malformed i 1)
        else match r2 with
          | [] => .error (.incomplete i)
          | c :: r3 =>
            if !isTail c then .error (.malformed i 2)
            else match r3 with
              | [] => .error (.incomplete i)
              | d :: r4 =>
                if isTail d then
                  return assemble (a.toNat - 0xF0) [b, c, d] :: (← decodeFrom (i + 4) r4)
                else .error (.malformed i 3)
    else .error (.malformed i 1)

/-- **The text of some bytes**, or the first fault. -/
def decode (bytes : Bytes) : Except Fault Text := decodeFrom 0 bytes

end Kompositum.Utf8

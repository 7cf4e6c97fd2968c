import Kompositum.Character.Lower.Table

/-!
# Small letters

* `toLower`: the small letters of a character. Only `İ` has two of them, a small `i` and a
  combining dot; the sigma that ends a word is a matter of the text around it.
-/

namespace Kompositum.Character

/-- **The small letters of a character**, the character itself if it has none. -/
def toLower (c : Char) : List Char :=
  if c.toNat < 0x80 then [if 'A' ≤ c && c ≤ 'Z' then Char.ofNat (c.toNat + 32) else c]
  else if c == '\u0130' then ['i', '\u0307']
  else [shifted lowerShifts c]

end Kompositum.Character

set_option autoImplicit false

/-!
# Text: blanks

The characters that surround a value without belonging to it.  Two sets are in
use: the six of ASCII that a number inside ASCII text may have around it, and
the wider set of Unicode 14, which adds the information separators U+001C to
U+001F, the next-line character and the separators of category `Z`.
-/

namespace TezosNode.Text

/-- Tab, line feed, vertical tab, form feed, carriage return and space. -/
def isAsciiBlank (c : Char) : Bool :=
  c.toNat = 0x20 || (0x09 ≤ c.toNat && c.toNat ≤ 0x0D)

/-- The blanks of Unicode. -/
def isBlank (c : Char) : Bool :=
  isAsciiBlank c || (0x1C ≤ c.toNat && c.toNat ≤ 0x1F) || c.toNat = 0x85 || c.toNat = 0xA0
    || c.toNat = 0x1680 || (0x2000 ≤ c.toNat && c.toNat ≤ 0x200A) || c.toNat = 0x2028
    || c.toNat = 0x2029 || c.toNat = 0x202F || c.toNat = 0x205F || c.toNat = 0x3000

/-- A text without the characters of a class at its end. -/
def dropEndWhile (p : Char → Bool) (text : List Char) : List Char :=
  (text.reverse.dropWhile p).reverse

/-- A text without the characters of a class at its two ends. -/
def strip (p : Char → Bool) (text : List Char) : List Char :=
  dropEndWhile p (text.dropWhile p)

end TezosNode.Text

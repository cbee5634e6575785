import TezosNode.Text.Hex
import TezosNode.Text.Utf8

set_option autoImplicit false

/-!
# URL: percent encoding

Each part of a URL keeps a set of printable ASCII characters; the octets of every
other character are written as `%` and two hexadecimal digits.  All sets hold `%`
itself, so what is already encoded stays as it is.
-/

namespace TezosNode.Url

/-! ## Character classes -/

/-- Whether a character is a letter or digit of ASCII. -/
def isAsciiAlnum (c : Char) : Bool := c.isAlpha || c.isDigit

/-- The characters that no part of a URL encodes. -/
def isUnreserved (c : Char) : Bool := isAsciiAlnum c || "-._~".toList.contains c

/-- The printable ASCII characters outside a list. -/
def asciiExcept (excluded : List Char) (c : Char) : Bool :=
  0x20 ≤ c.toNat && c.toNat < 0x7F && !excluded.contains c

/-- The characters that a fragment keeps. -/
def inFragment : Char → Bool := asciiExcept [' ', '"', '<', '>', '\x60']

/-- The characters that a query keeps. -/
def inQuery : Char → Bool := asciiExcept [' ', '"', '#', '<', '>']

/-- The characters that a path encodes. -/
def outsidePath : List Char := [' ', '"', '#', '<', '>', '?', '\x60', '\x7b', '\x7d']

/-- The characters that a path keeps. -/
def inPath : Char → Bool := asciiExcept outsidePath

/-- The characters that the part for a user and a password keeps. -/
def inUserInfo : Char → Bool :=
  asciiExcept (outsidePath ++ ['/', ';', '=', '@', '[', '\\', ']', '^', '|'])

/-- The characters that a host name keeps. -/
def inHost (c : Char) : Bool :=
  isUnreserved c || "!$&'()*+,;=".toList.contains c
    || ['"', '\x60', '\x7b', '\x7d', '%', '|', '\\'].contains c

/-! ## Encoding -/

/-- An octet as `%` and two digits. -/
def percentOctet (b : UInt8) : List Char :=
  ['%', Text.upperHexDigit (b.toNat / 16), Text.upperHexDigit (b.toNat % 16)]

/-- The octets of a character, each encoded. -/
def percentChar (c : Char) : List Char := (String.utf8EncodeChar c).flatMap percentOctet

/-- A text with all characters encoded but those that are kept. -/
def percentEncode (keeps : Char → Bool) (text : List Char) : List Char :=
  text.flatMap fun c => if keeps c then [c] else percentChar c

/-! ## Decoding -/

/-- The octets of a text after those in `read`, latest first, where the next `skip`
characters belong to an encoded octet that has been read.  A `%` without two
digits after it stands for itself. -/
def percentOctetsFrom (read : Bytes) : (skip : Nat) → List Char → Bytes
  | _, [] => read.reverse
  | skip + 1, _ :: rest => percentOctetsFrom read skip rest
  | 0, c :: rest =>
    match c, rest with
    | '%', a :: b :: _ =>
      match Text.hexNumber? [a, b] with
      | some n => percentOctetsFrom (UInt8.ofNat n :: read) 2 rest
      | none => percentOctetsFrom (0x25 :: read) 0 rest
    | _, _ => percentOctetsFrom ((String.utf8EncodeChar c).reverse ++ read) 0 rest

/-- The octets that a text spells, with those encoded decoded. -/
def percentOctets (text : List Char) : Bytes := percentOctetsFrom [] 0 text

/-- A text with its encoded octets decoded, as far as they spell text. -/
def percentDecode (text : List Char) : List Char := Text.Utf8.decodeLossy (percentOctets text)

end TezosNode.Url

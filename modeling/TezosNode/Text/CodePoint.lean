import TezosNode.Text.Hex

set_option autoImplicit false

/-!
# Text: code points

A text that is handed over need not be made of characters: among its code points may be
surrogates, of which two together can stand for a character in other encodings, but none can
in UTF-8.  Such a text has no octets, and to encode it is a fault.
-/

namespace TezosNode.Text

/-- A code point that is no character. -/
structure Surrogate where
  number : Nat
  first_le : 0xD800 ≤ number
  le_last : number ≤ 0xDFFF
  deriving DecidableEq, Repr

/-- A code point. -/
inductive CodePoint where
  | character (c : Char)
  | surrogate (u : Surrogate)
  deriving DecidableEq, Repr

namespace CodePoint

/-- Whether a code point is no character. -/
def isSurrogate : CodePoint → Bool
  | .character _ => false
  | .surrogate _ => true

/-- The character of a code point. -/
def character? : CodePoint → Option Char
  | .character c => some c
  | .surrogate _ => none

/-- The code points of a string. -/
def ofString (s : String) : List CodePoint := s.toList.map .character

/-- The string of those code points that are characters. -/
def toString (text : List CodePoint) : String := String.ofList (text.filterMap character?)

end CodePoint

/-- Surrogates that stand together in a text, and their place. -/
structure EncodeFault where
  first : Surrogate
  position : Nat
  count : Nat
  deriving DecidableEq, Repr

/-- The wording of a fault.  A surrogate that stands alone is shown. -/
def EncodeFault.message (f : EncodeFault) : String :=
  let place :=
    if f.count = 1 then
      "character '\\u" ++ String.ofList (hexDigits 4 f.first.number) ++ "' in position "
        ++ toString f.position
    else
      "characters in position " ++ toString f.position ++ "-"
        ++ toString (f.position + f.count - 1)
  "'utf-8' codec can't encode " ++ place ++ ": surrogates not allowed"

/-- The first surrogates of a text. -/
def encodeFault? (text : List CodePoint) : Option EncodeFault :=
  match text.dropWhile (!·.isSurrogate) with
  | .surrogate u :: rest =>
    some ⟨u, (text.takeWhile (!·.isSurrogate)).length,
      (rest.takeWhile CodePoint.isSurrogate).length + 1⟩
  | _ => none

end TezosNode.Text

import TezosNode.Text.Hex
import TezosNode.Text.Printable

set_option autoImplicit false

/-!
# Text: quoted text

How messages quote a text: in single quotes, or in double quotes if the text has
a single quote and no double one.  The quote in use and the backslash are
escaped, line feed, carriage return and tab have letters, and every other
unprintable character is given by its code in two, four or eight hexadecimal
digits.  A text may also be given as code points, some of which are surrogates and no
characters.
-/

namespace TezosNode.Text.Quoted

/-- The quote that a text is put in. -/
def quoteFor (text : List Char) : Char :=
  if text.contains '\'' && !text.contains '"' then '"' else '\''

/-- One character between quotes. -/
def escape (quote c : Char) : List Char :=
  if c = quote ∨ c = '\\' then ['\\', c]
  else if c = '\n' then ['\\', 'n']
  else if c = '\r' then ['\\', 'r']
  else if c = '\t' then ['\\', 't']
  else if isPrintable c then [c]
  else if c.toNat < 0x100 then '\\' :: 'x' :: hexDigits 2 c.toNat
  else if c.toNat < 0x10000 then '\\' :: 'u' :: hexDigits 4 c.toNat
  else '\\' :: 'U' :: hexDigits 8 c.toNat

/-- A text in quotes. -/
def render (text : List Char) : List Char :=
  let quote := quoteFor text
  quote :: text.flatMap (escape quote) ++ [quote]

/-- One code point between quotes; a surrogate is given by its code. -/
def escapeCode (quote : Char) (code : Nat) : List Char :=
  if code.isValidChar then escape quote (Char.ofNat code) else '\\' :: 'u' :: hexDigits 4 code

/-- Code points in quotes. -/
def renderCodes (codes : List Nat) : List Char :=
  let quote := quoteFor (codes.map Char.ofNat)
  quote :: codes.flatMap (escapeCode quote) ++ [quote]

/-- A string in quotes. -/
def quote (s : String) : String := String.ofList (render s.toList)

end TezosNode.Text.Quoted

set_option autoImplicit false

/-!
# Text: words without case

Words are compared without regard to case by their folding.  Only words of ASCII letters
are looked up here, so the folding covers the capitals of ASCII and those other
characters whose folding is in ASCII: two forms of the letter s, the kelvin sign, the
sharp s and the Latin ligatures.
-/

namespace TezosNode.Text

/-- The characters beyond ASCII whose folding is in ASCII, with it. -/
def asciiFoldings : List (Char × String) :=
  [('\u00df', "ss"), ('\u017f', "s"), ('\u1e9e', "ss"), ('\u212a', "k"), ('\ufb00', "ff"),
    ('\ufb01', "fi"), ('\ufb02', "fl"), ('\ufb03', "ffi"), ('\ufb04', "ffl"), ('\ufb05', "st"),
    ('\ufb06', "st")]

/-- The folding of a character, as far as it is in ASCII. -/
def foldChar (c : Char) : List Char :=
  match asciiFoldings.find? fun f => f.1 == c with
  | some f => f.2.toList
  | none => [c.toLower]

/-- The folding of a word. -/
def foldCase (word : String) : String := String.ofList (word.toList.flatMap foldChar)

end TezosNode.Text

import TezosNode.Number.Binary64
import TezosNode.Text.Blank
import TezosNode.Text.DecimalDigit
import TezosNode.Text.Quoted

set_option autoImplicit false

/-!
# Number: numerals

Numbers written by people and programs as text: an integer or a decimal fraction
with blanks around it, a sign, digits of any script, and single underscores
between digits.

An integer of more than `maxDigits` digits is refused, since the time to read one
grows faster than its length.
-/

namespace TezosNode.Numeral

open Text

/-- The greatest number of digits of an integer numeral. -/
def maxDigits : Nat := 4300

/-- Why a text is no integer. -/
inductive Fault where
  /-- the text is no numeral -/
  | invalid
  /-- the numeral has this many digits, which are too many -/
  | tooLong (digits : Nat)
  /-- the numeral of an integer would have too many digits -/
  | unwritable
  deriving DecidableEq, Repr, Inhabited

/-- The blanks around a numeral.  Of the ASCII characters only the six ASCII
blanks count. -/
def isOuterBlank (c : Char) : Bool :=
  isAsciiBlank c || (0x7F ≤ c.toNat && isBlank c)

/-- Whether a character is a digit of ASCII. -/
def isDigit (c : Char) : Bool := 0x30 ≤ c.toNat && c.toNat ≤ 0x39

/-- The ASCII digit of a digit of any script; other characters stay. -/
def asciiDigit (c : Char) : Char :=
  match digitValue? c with
  | some d => Char.ofNat (0x30 + d)
  | none => c

/-- The numeral in a text: no blanks around it, its digits in ASCII. -/
def plain (text : List Char) : List Char := (strip isOuterBlank text).map asciiDigit

/-- The number that ASCII digits write. -/
def ofDigits (digits : List Char) : Nat :=
  digits.foldl (fun n c => 10 * n + (c.toNat - 0x30)) 0

/-- A sign and the text after it. -/
def splitSign : List Char → Bool × List Char
  | '-' :: rest => (true, rest)
  | '+' :: rest => (false, rest)
  | text => (false, text)

/-- Whether every underscore stands between two digits; `previous` is the
character before the text. -/
def groupedAfter (previous : Char) : List Char → Bool
  | [] => previous != '_'
  | c :: rest =>
    if c = '_' then isDigit previous && groupedAfter c rest
    else (previous != '_' || isDigit c) && groupedAfter c rest

/-- Whether every underscore of a text stands between two digits. -/
def grouped (text : List Char) : Bool := groupedAfter ' ' text

/-- A text without its underscores. -/
def ungroup (text : List Char) : List Char := text.filter (· != '_')

/-! ## Integers -/

/-- Reads an integer numeral. -/
def integer (text : List Char) : Except Fault Int :=
  let (negative, body) := splitSign (plain text)
  let shown := body.takeWhile fun c => isDigit c || c == '_'
  let rest := body.dropWhile fun c => isDigit c || c == '_'
  let digits := ungroup shown
  if digits.isEmpty || !grouped shown then .error .invalid
  else if maxDigits < digits.length then .error (.tooLong digits.length)
  else if !rest.isEmpty then .error .invalid
  else .ok (if negative then -(ofDigits digits : Int) else ofDigits digits)

/-- The wording of a fault of a text.  Of the text in quotes two hundred
characters are shown. -/
def Fault.message (text : List Char) : Fault → String
  | .invalid =>
    "invalid literal for int() with base 10: "
      ++ String.ofList ((Quoted.render text).take 200)
  | .tooLong digits =>
    "Exceeds the limit (" ++ toString maxDigits
      ++ " digits) for integer string conversion: value has " ++ toString digits
      ++ " digits; use sys.set_int_max_str_digits() to increase the limit"
  | .unwritable =>
    "Exceeds the limit (" ++ toString maxDigits
      ++ " digits) for integer string conversion"
      ++ "; use sys.set_int_max_str_digits() to increase the limit"

/-- The numeral of an integer. -/
def write (n : Int) : Except Fault String :=
  if n.natAbs < Nat.pow 10 maxDigits then .ok (toString n) else .error .unwritable

/-! ## Fractions -/

/-- A number in decimal notation: `digits * 10 ^ power` with its sign. -/
structure Notation where
  negative : Bool
  digits : Nat
  power : Int
  deriving DecidableEq, Repr, Inhabited

/-- Reads an exponent, `e` with an optional sign and digits, or nothing. -/
def exponent? : List Char → Option Int
  | [] => some 0
  | e :: rest =>
    let (negative, digits) := splitSign rest
    if (e == 'e' || e == 'E') && !digits.isEmpty && digits.all isDigit then
      some (if negative then -(ofDigits digits : Int) else ofDigits digits)
    else none

/-- Reads a number without sign in decimal notation: digits with at most one point
among them, at least one digit, and an optional exponent. -/
def unsigned? (negative : Bool) (text : List Char) : Option Notation :=
  let whole := text.takeWhile isDigit
  let rest := text.dropWhile isDigit
  let (places, rest) := match rest with
    | '.' :: rest => (rest.takeWhile isDigit, rest.dropWhile isDigit)
    | rest => ([], rest)
  if whole.isEmpty && places.isEmpty then none
  else (exponent? rest).map fun power =>
    ⟨negative, ofDigits (whole ++ places), power - places.length⟩

/-- A text in lower case, as far as ASCII goes. -/
def lower (text : List Char) : List Char := text.map Char.toLower

/-- Reads a double: a number in decimal notation, an infinity or `nan`. -/
def double? (text : List Char) : Option Binary64 :=
  let body := plain text
  if !grouped body then none
  else
    let (negative, body) := splitSign (ungroup body)
    if lower body = "inf".toList ∨ lower body = "infinity".toList then
      some (.infinite negative)
    else if lower body = "nan".toList then some .nan
    else (unsigned? negative body).map fun n => .ofDecimal n.negative n.digits n.power

end TezosNode.Numeral

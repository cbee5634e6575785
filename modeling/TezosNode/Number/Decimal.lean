import TezosNode.Number.Numeral

set_option autoImplicit false

/-!
# Number: decimals

Decimal floating point: a coefficient and a power of ten, infinities and the
quiet and signaling not-a-numbers.  Reading a text keeps every digit.  The
results of operations are rounded to `precision` digits, ties to even; a result
beyond the greatest exponent is an overflow, one below the least loses digits.
-/

namespace TezosNode

/-- A decimal number. -/
inductive Decimal where
  /-- the number `coefficient * 10 ^ exponent`, with its sign -/
  | finite (negative : Bool) (coefficient : Nat) (exponent : Int)
  | infinite (negative : Bool)
  /-- not a number, with a payload that tells its origin -/
  | nan (negative signaling : Bool) (payload : Nat)
  deriving DecidableEq, Repr, Inhabited

namespace Decimal

/-- The number of digits of a result. -/
def precision : Nat := 28

/-- The greatest power of ten of the first digit of a result. -/
def greatestPower : Int := 999999

/-- The least power of ten of the last digit of a result. -/
def leastExponent : Int := -1000026

/-- The number of digits of a coefficient; zero has one. -/
def digitCount (n : Nat) : Nat := (Nat.toDigits 10 n).length

/-! ## Reading -/

/-- Why a text is no decimal. -/
inductive ReadFault where
  /-- the text is no numeral -/
  | malformed
  /-- the exponent is beyond what a decimal can hold -/
  | outOfRange
  deriving DecidableEq, Repr, Inhabited

/-- The greatest power of ten of the first digit that can be read. -/
def greatestReadable : Int := 999999999999999999

/-- The least exponent that can be read. -/
def leastReadable : Int := -1999999999999999997

/-- Whether a coefficient and an exponent can be held as they are. -/
def readable (coefficient : Nat) (exponent : Int) : Bool :=
  exponent + digitCount coefficient - 1 ≤ greatestReadable && leastReadable ≤ exponent

/-- The payload after a not-a-number, if only digits follow. -/
def payload? (text : List Char) : Option Nat :=
  if text.all Numeral.isDigit then some (Numeral.ofDigits text) else none

/-- Reads a number that is no numeral: an infinity or a not-a-number. -/
def special? (negative : Bool) (text : List Char) : Option Decimal :=
  match Numeral.lower text with
  | 'n' :: 'a' :: 'n' :: payload => (payload? payload).map (.nan negative false)
  | 's' :: 'n' :: 'a' :: 'n' :: payload => (payload? payload).map (.nan negative true)
  | body =>
    if body = "inf".toList ∨ body = "infinity".toList then some (.infinite negative) else none

/-- Reads a decimal.  Blanks around it and all underscores are ignored. -/
def read (text : List Char) : Except ReadFault Decimal :=
  let body := (Numeral.ungroup (Text.strip Text.isBlank text)).map Numeral.asciiDigit
  let (negative, body) := Numeral.splitSign body
  match special? negative body with
  | some d => .ok d
  | none =>
    match Numeral.unsigned? negative body with
    | none => .error .malformed
    | some n =>
      if readable n.digits n.power then .ok (.finite n.negative n.digits n.power)
      else .error .outOfRange

/-- The decimal of an integer. -/
def ofInt (n : Int) : Decimal := .finite (n < 0) n.natAbs 0

/-! ## Results -/

/-- The conditions that stop an operation. -/
inductive Signal where
  | invalidOperation
  | overflow
  deriving DecidableEq, Repr, Inhabited

/-- Drops the last `drop` digits of a coefficient, ties to even.  A coefficient of fewer
digits is nearest to zero. -/
def shorten (coefficient drop : Nat) : Nat :=
  if digitCount coefficient < drop then 0 else roundHalfEven coefficient (Nat.pow 10 drop)

/-- The number of digits of a coefficient that a result cannot hold: those beyond the
precision or below the least exponent, whichever are more. -/
def excess (coefficient : Nat) (exponent : Int) : Nat :=
  max (digitCount coefficient - precision) (leastExponent - exponent).toNat

/-- Rounds a coefficient to what a result can hold. -/
def rounded (coefficient : Nat) (exponent : Int) : Nat × Int :=
  let drop := excess coefficient exponent
  let c := shorten coefficient drop
  if digitCount c ≤ precision then (c, exponent + drop) else (c / 10, exponent + drop + 1)

/-- The result of an operation whose exact value is given. -/
def result (negative : Bool) (coefficient : Nat) (exponent : Int) : Except Signal Decimal :=
  if coefficient = 0 then
    .ok (.finite negative 0 (min (max exponent leastExponent) greatestPower))
  else if greatestPower < exponent + digitCount coefficient - 1 then .error .overflow
  else
    let (c, e) := rounded coefficient exponent
    if greatestPower < e + digitCount c - 1 then .error .overflow
    else .ok (.finite negative c e)

/-- The product of a decimal and a positive integer. -/
def mulNat (d : Decimal) (factor : Nat) : Except Signal Decimal :=
  match d with
  | .finite negative c e => result negative (c * factor) e
  | .infinite negative => .ok (.infinite negative)
  | .nan _ true _ => .error .invalidOperation
  | d => .ok d

/-- Drops zeros at the end of a coefficient while the exponent is negative. -/
def dropZeros : (places : Nat) → Nat → Nat × Int
  | 0, c => (c, 0)
  | places + 1, c => if c % 10 = 0 then dropZeros places (c / 10) else (c, -(places + 1 : Int))

/-- The quotient of an integer and `10 ^ places`: the point moves and zeros after
it are dropped. -/
def divPower (n : Int) (places : Nat) : Except Signal Decimal :=
  let (c, e) := dropZeros places n.natAbs
  result (n < 0) c e

/-! ## Values -/

/-- Whether a decimal is a number. -/
def isFinite : Decimal → Bool
  | .finite _ _ _ => true
  | _ => false

/-- The value of a decimal that is an integer. -/
def toInt? : Decimal → Option Int
  | .finite negative c e =>
    if c = 0 then some 0
    else if 0 ≤ e then
      let n := c * Nat.pow 10 e.toNat
      some (if negative then -(n : Int) else n)
    else if digitCount c ≤ (-e).toNat then none
    else
      let d := Nat.pow 10 (-e).toNat
      if c % d = 0 then some (if negative then -((c / d : Nat) : Int) else (c / d : Nat))
      else none
  | _ => none

/-! ## Writing -/

/-- The digits of a coefficient with the point that an exponent from `10 ^ -6` up
gives, or with an exponent. -/
def finiteText (c : Nat) (e : Int) : List Char :=
  let digits := Nat.toDigits 10 c
  let power := e + digits.length - 1
  if e ≤ 0 ∧ -6 ≤ power then
    if e = 0 then digits
    else if 0 ≤ power then
      let whole := (power + 1).toNat
      digits.take whole ++ '.' :: digits.drop whole
    else '0' :: '.' :: List.replicate (-power - 1).toNat '0' ++ digits
  else
    let mantissa := match digits with
      | first :: rest => if rest.isEmpty then [first] else first :: '.' :: rest
      | [] => []
    mantissa ++ 'E' :: (if power < 0 then '-' else '+') :: Nat.toDigits 10 power.natAbs

/-- A decimal as text. -/
def render : Decimal → List Char
  | .finite negative c e => (if negative then ['-'] else []) ++ finiteText c e
  | .infinite negative => (if negative then ['-'] else []) ++ "Infinity".toList
  | .nan negative signaling payload =>
    (if negative then ['-'] else []) ++ (if signaling then ['s'] else []) ++ "NaN".toList
      ++ (if payload = 0 then [] else Nat.toDigits 10 payload)

/-- A decimal as a string. -/
def text (d : Decimal) : String := String.ofList d.render

/-- The wording of a fault. -/
def ReadFault.message : ReadFault → String
  | .malformed => "[<class 'decimal.ConversionSyntax'>]"
  | .outOfRange => "[<class 'decimal.InvalidOperation'>]"

/-- The wording of a condition. -/
def Signal.message : Signal → String
  | .invalidOperation => "[<class 'decimal.InvalidOperation'>]"
  | .overflow => "[<class 'decimal.Overflow'>]"

end Decimal

end TezosNode

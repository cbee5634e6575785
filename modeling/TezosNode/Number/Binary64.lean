set_option autoImplicit false

/-!
# Number: binary64

The double-precision numbers of IEEE 754 as exact values: a finite number is its
sign, a significand below `2 ^ 53` and a power of two.  A ratio of natural
numbers is rounded to the nearest of them, with ties to the even significand, so
that reading, dividing and rounding a number are exact arithmetic followed by
one rounding.
-/

namespace TezosNode

/-! ## Rounding a quotient -/

/-- The natural number nearest to `num / den`, the even one of two. -/
def roundHalfEven (num den : Nat) : Nat :=
  let q := num / den
  let r := num % den
  if den < 2 * r ∨ (2 * r = den ∧ q % 2 = 1) then q + 1 else q

/-- A double-precision number. -/
inductive Binary64 where
  /-- the number `significand * 2 ^ exponent`, with its sign -/
  | finite (negative : Bool) (significand : Nat) (exponent : Int)
  | infinite (negative : Bool)
  | nan
  deriving DecidableEq, Repr, Inhabited

namespace Binary64

/-- The exponent of the subnormal numbers. -/
def leastExponent : Int := -1074

/-- The exponent of the largest finite numbers. -/
def greatestExponent : Int := 971

/-- Zero with a sign. -/
def zero (negative : Bool) : Binary64 := .finite negative 0 leastExponent

/-- Numerator and denominator of `num / den` in units of `2 ^ e`. -/
def inUnits (num den : Nat) (e : Int) : Nat × Nat :=
  if 0 ≤ e then (num, den * Nat.pow 2 e.toNat) else (num * Nat.pow 2 (-e).toNat, den)

/-- The exponent that leaves a quotient 53 bits before its point, and never less
than the least one. -/
def exponentFor (num den : Nat) : Int :=
  let e := max ((num.log2 : Int) - (den.log2 : Int) - 53) leastExponent
  let (n, d) := inUnits num den e
  if n / d < Nat.pow 2 53 then e else e + 1

/-- The double nearest to `num / den`, ties to even. -/
def ofRatio (negative : Bool) (num den : Nat) : Binary64 :=
  if num = 0 then zero negative
  else
    let e := exponentFor num den
    let (n, d) := inUnits num den e
    let m := roundHalfEven n d
    let (m, e) := if m < Nat.pow 2 53 then (m, e) else (Nat.pow 2 52, e + 1)
    if greatestExponent < e then .infinite negative else .finite negative m e

/-- The number of decimal digits, none for zero. -/
def digitCount (n : Nat) : Nat := if n = 0 then 0 else (Nat.toDigits 10 n).length

/-- The double nearest to `digits * 10 ^ power`.  Powers so far off that only
infinity or zero can result are decided by the number of digits. -/
def ofDecimal (negative : Bool) (digits : Nat) (power : Int) : Binary64 :=
  if digits = 0 then zero negative
  else
    let top : Int := digitCount digits + power
    if 400 < top then .infinite negative
    else if top < -400 then zero negative
    else if 0 ≤ power then ofRatio negative (digits * Nat.pow 10 power.toNat) 1
    else ofRatio negative digits (Nat.pow 10 (-power).toNat)

/-! ## Exact values -/

/-- Whether a number is an integer. -/
def isIntegral : Binary64 → Bool
  | .finite _ m e => 0 ≤ e || m % Nat.pow 2 (-e).toNat == 0
  | _ => false

/-- The integer part of a finite number, toward zero. -/
def truncate? : Binary64 → Option Int
  | .finite negative m e =>
    let n : Nat := if 0 ≤ e then m * Nat.pow 2 e.toNat else m / Nat.pow 2 (-e).toNat
    some (if negative then -(n : Int) else n)
  | _ => none

/-- Whether a number is zero or negative.  No order holds of `nan`. -/
def isNonPositive : Binary64 → Bool
  | .finite negative m _ => negative || m == 0
  | .infinite negative => negative
  | .nan => false

/-- Whether a number counts as true: all but the two zeros do. -/
def isTruthy : Binary64 → Bool
  | .finite _ m _ => m != 0
  | _ => true

/-- A number rounded to a number of decimal places, ties to even, as the double
nearest to the result. -/
def roundPlaces (places : Nat) : Binary64 → Binary64
  | .finite negative m e =>
    let num := if 0 ≤ e then m * Nat.pow 2 e.toNat else m
    let den := if 0 ≤ e then 1 else Nat.pow 2 (-e).toNat
    ofRatio negative (roundHalfEven (num * Nat.pow 10 places) den) (Nat.pow 10 places)
  | x => x

end Binary64

end TezosNode

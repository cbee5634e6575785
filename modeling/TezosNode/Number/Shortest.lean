import TezosNode.Number.Binary64

set_option autoImplicit false

/-!
# Number: shortest decimals

A double is written with the fewest significant digits that read back as the
same double, and of the candidates with that many digits the one nearest to the
exact value.  The doubles that a decimal rounds to are found by the interval of
reals around the double, whose ends belong to it if its significand is even.

`Layout` says how the digits are arranged: which powers of ten are written out
and which get an exponent, and how the numbers without digits are spelled.
-/

namespace TezosNode

/-! ## Digits -/

/-- Significant digits and the power of ten of the first of them: `d.ddd * 10 ^ power`. -/
structure Digits where
  digits : List Char
  power : Int
  deriving DecidableEq, Repr, Inhabited

namespace Binary64

/-- The reals that round to a positive double, in units of `2 ^ unit`: the value
itself and the two ends of the interval, and whether the ends belong to it. -/
structure Interval where
  low : Nat
  value : Nat
  high : Nat
  unit : Int
  closed : Bool
  deriving DecidableEq, Repr, Inhabited

/-- The interval of a positive double.  Below a power of two the next double is
half as far away. -/
def interval (m : Nat) (e : Int) : Interval :=
  let low := if m = Nat.pow 2 52 ∧ leastExponent < e then 4 * m - 1 else 4 * m - 2
  ⟨low, 4 * m, 4 * m + 2, e - 2, m % 2 = 0⟩

/-- Compares `a * 2 ^ unit` with `c * 10 ^ k`. -/
def compareScaled (a : Nat) (unit : Int) (c : Nat) (k : Int) : Ordering :=
  compare (a * Nat.pow 2 unit.toNat * Nat.pow 10 (-k).toNat)
    (c * Nat.pow 2 (-unit).toNat * Nat.pow 10 k.toNat)

/-- Whether `c * 10 ^ k` rounds to the double of an interval. -/
def Interval.contains (i : Interval) (c : Nat) (k : Int) : Bool :=
  let below := compareScaled i.low i.unit c k
  let above := compareScaled i.high i.unit c k
  (below == .lt || (i.closed && below == .eq)) && (above == .gt || (i.closed && above == .eq))

/-- The power of ten of the first digit of `a * 2 ^ unit`, for a positive `a`. -/
def decimalPower (a : Nat) (unit : Int) : Int :=
  let guess := ((a.log2 + unit) * 30103).fdiv 100000
  if compareScaled a unit 1 (guess + 1) == .lt then guess else guess + 1

/-- The candidate on the grid of `10 ^ k`: of the two neighbours of the value that
round to the double, the nearer one, the even one of a tie. -/
def Interval.candidate? (i : Interval) (k : Int) : Option Nat :=
  let num := i.value * Nat.pow 2 i.unit.toNat * Nat.pow 10 (-k).toNat
  let den := Nat.pow 2 (-i.unit).toNat * Nat.pow 10 k.toNat
  let down := num / den
  let up := down + 1
  match i.contains down k, i.contains up k with
  | true, true => some (roundHalfEven num den)
  | true, false => some down
  | false, true => some up
  | false, false => none

/-- The first candidate on the grids that show `tried`, `tried + 1`, … digits. -/
def Interval.shortestFrom (i : Interval) (power : Int) : (left tried : Nat) → Nat × Int
  | 0, tried =>
    let k := power - tried + 1
    ((i.candidate? k).getD i.value, k)
  | left + 1, tried =>
    let k := power - tried + 1
    match i.candidate? k with
    | some c => (c, k)
    | none => i.shortestFrom power left (tried + 1)

/-- The shortest digits of the positive double `m * 2 ^ e`.  Seventeen digits
always suffice. -/
def shortest (m : Nat) (e : Int) : Digits :=
  let i := interval m e
  let (c, k) := i.shortestFrom (decimalPower i.value i.unit) 16 1
  let all := Nat.toDigits 10 c
  let significant := (all.reverse.dropWhile (· == '0')).reverse
  ⟨significant, k + all.length - 1⟩

/-! ## Layout -/

/-- How a double is written. -/
structure Layout where
  /-- the least power of ten of a first digit that is written without exponent -/
  leastPlain : Int
  /-- the first power of ten above the plain ones -/
  firstScientific : Int
  /-- the least number of digits of an exponent -/
  exponentWidth : Nat
  nan : String
  infinity : String
  deriving DecidableEq, Repr, Inhabited

/-- An exponent with its sign. -/
def exponentText (width : Nat) (power : Int) : List Char :=
  let digits := Nat.toDigits 10 power.natAbs
  (if power < 0 then '-' else '+') :: List.replicate (width - digits.length) '0' ++ digits

/-- Digits without exponent; at least one digit stands after the point. -/
def plainText (d : Digits) : List Char :=
  if d.power < 0 then
    '0' :: '.' :: List.replicate (-d.power - 1).toNat '0' ++ d.digits
  else
    let whole := d.power.toNat + 1
    let padded := d.digits ++ List.replicate (whole - d.digits.length) '0'
    let places := padded.drop whole
    padded.take whole ++ '.' :: (if places.isEmpty then ['0'] else places)

/-- Digits with exponent; a single digit has no point. -/
def scientificText (layout : Layout) (d : Digits) : List Char :=
  let mantissa := match d.digits with
    | first :: rest => if rest.isEmpty then [first] else first :: '.' :: rest
    | [] => []
  mantissa ++ 'e' :: exponentText layout.exponentWidth d.power

/-- A double in a layout. -/
def render (layout : Layout) : Binary64 → List Char
  | .nan => layout.nan.toList
  | .infinite negative => (if negative then ['-'] else []) ++ layout.infinity.toList
  | .finite negative m e =>
    let d := if m = 0 then ⟨['0'], 0⟩ else shortest m e
    let body :=
      if layout.leastPlain ≤ d.power ∧ d.power < layout.firstScientific then plainText d
      else scientificText layout d
    (if negative then ['-'] else []) ++ body

/-- The layout of messages and settings: powers from `10 ^ -4` to `10 ^ 15` are
written out. -/
def Layout.message : Layout := ⟨-4, 16, 2, "nan", "inf"⟩

/-- The layout of documents, which spells the numbers without digits differently. -/
def Layout.document : Layout := { Layout.message with nan := "NaN", infinity := "Infinity" }

/-- A double in messages and settings. -/
def text (x : Binary64) : String := String.ofList (x.render .message)

end Binary64

end TezosNode

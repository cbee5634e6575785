import TezosNode.Number.Decimal

set_option autoImplicit false

/-!
# Amounts

Amounts of money are counted in mutez, and a million mutez are one tez.  Amounts in
tez are decimals, so both directions go through the decimal arithmetic of
`Decimal`, which rounds to `Decimal.precision` digits.
-/

namespace TezosNode.Tez

/-- The decimal places of a tez: one mutez is `10 ^ -places` tez. -/
def places : Nat := 6

/-- The number of mutez in a tez. -/
def mutezPerTez : Nat := Nat.pow 10 places

/-- An amount of mutez in tez. -/
def ofMutez (n : Int) : Except Decimal.Signal Decimal := Decimal.divPower n places

/-! ## Amounts in tez -/

/-- An amount in tez, in one of the forms that callers have it in. -/
inductive Amount where
  | text (s : String)
  | integer (n : Int)
  | decimal (d : Decimal)
  deriving DecidableEq, Repr, Inhabited

/-- An amount as messages show it. -/
def Amount.shown : Amount → String
  | .text s => Text.Quoted.quote s
  | .integer n => toString n
  | .decimal d => "Decimal('" ++ d.text ++ "')"

/-- Why an amount in tez is no number of mutez. -/
inductive Fault where
  /-- the amount is no number, or none that a product can be taken of -/
  | invalid (amount : Amount)
  /-- the amount is an integer that is too long to be written -/
  | unwritable
  /-- the amount is infinite or not a number -/
  | notFinite (amount : Amount)
  /-- the amount has a part smaller than a mutez -/
  | fractional (amount : Amount)
  /-- the number of mutez is beyond the greatest decimal -/
  | overflow
  deriving DecidableEq, Repr, Inhabited

/-- The wording of a fault. -/
def Fault.message : Fault → String
  | .invalid amount | .notFinite amount => "Invalid tez amount: " ++ amount.shown
  | .unwritable => Numeral.Fault.unwritable.message []
  | .fractional amount => "Tez amount has sub-mutez precision: " ++ amount.shown
  | .overflow => Decimal.Signal.overflow.message

/-- The decimal that an amount is.  An integer becomes one by way of its numeral. -/
def Amount.toDecimal : Amount → Except Fault Decimal
  | .text s => (Decimal.read s.toList).mapError fun _ => .invalid (.text s)
  | .integer n => do
    let _ ← (Numeral.write n).mapError fun _ => Fault.unwritable
    return Decimal.ofInt n
  | .decimal d => .ok d

/-- The number of mutez in an amount of tez. -/
def toMutez (amount : Amount) : Except Fault Int :=
  match amount.toDecimal with
  | .error fault => .error fault
  | .ok d =>
    match d.mulNat mutezPerTez with
    | .error .invalidOperation => .error (.invalid amount)
    | .error .overflow => .error .overflow
    | .ok product =>
      if product.isFinite then
        match product.toInt? with
        | some n => .ok n
        | none => .error (.fractional amount)
      else .error (.notFinite amount)

end TezosNode.Tez

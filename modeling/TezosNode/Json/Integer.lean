import TezosNode.Json.Basic

set_option autoImplicit false

/-!
# JSON: integers in documents

A node writes an integer as a number or, when it may not fit a machine word, as a
string that holds its numeral.  Any value is asked for its integer here: booleans
count as zero and one, doubles are cut off toward zero, and the other kinds have
none.
-/

namespace TezosNode.Json

/-- The kinds of value that never have an integer. -/
inductive NonNumber where
  | null
  | array
  | object
  deriving DecidableEq, Repr, Inhabited

/-- A kind in messages. -/
def NonNumber.name : NonNumber → String
  | .null => "NoneType"
  | .array => "list"
  | .object => "dict"

/-- Why a value has no integer. -/
inductive IntegerFault where
  /-- a string that is no numeral -/
  | notNumeral (text : String) (fault : Numeral.Fault)
  | nan
  | infinite
  | wrongKind (kind : NonNumber)
  deriving DecidableEq, Repr, Inhabited

/-- The integer of a value. -/
def toInteger : Json → Except IntegerFault Int
  | .bool b => .ok (if b then 1 else 0)
  | .integer n => .ok n
  | .double x =>
    match x.truncate? with
    | some n => .ok n
    | none => .error (if x = .nan then .nan else .infinite)
  | .string s => (Numeral.integer s.toList).mapError (.notNumeral s)
  | .null => .error (.wrongKind .null)
  | .array _ => .error (.wrongKind .array)
  | .object _ => .error (.wrongKind .object)

/-- The wording of a fault. -/
def IntegerFault.message : IntegerFault → String
  | .notNumeral text fault => fault.message text.toList
  | .nan => "cannot convert float NaN to integer"
  | .infinite => "cannot convert float infinity to integer"
  | .wrongKind kind =>
    "int() argument must be a string, a bytes-like object or a real number, not '" ++ kind.name
      ++ "'"

end TezosNode.Json

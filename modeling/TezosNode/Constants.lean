import TezosNode.Json.Integer
import TezosNode.Schema.Catalogue

set_option autoImplicit false

/-!
# Network constants

The constants of a network at a block.  Their fields change from protocol to
protocol, so the document is kept whole; the parameters in common use have
accessors, which are `none` where the protocol does not define them.
-/

namespace TezosNode

/-- The constants in effect at a block. -/
structure Constants where
  fields : List (String × Json)
  blockHash : Option String
  deriving Repr, Inhabited

namespace Constants

/-- The document of the constants. -/
def data (c : Constants) : Json := .object c.fields

/-- Reads constants from their document. -/
def ofJson (v : Json) (blockHash : Option String) : Except Schema.Rejection Constants :=
  match Schema.constants.validate v with
  | .error r => .error r
  | .ok () =>
    match v with
    | .object fields => .ok ⟨fields, blockHash⟩
    | _ => .ok ⟨[], blockHash⟩

/-- The value of a field, or a default. -/
def get (c : Constants) (name : String) (default : Json) : Json :=
  (Json.field? c.fields name).getD default

/-- The integer of a field's value: none for null and for an empty list, and that of
the first element for a list. -/
def integerOf : Json → Except Json.IntegerFault (Option Int)
  | .array [] => .ok none
  | .array (.null :: _) => .ok none
  | .array (v :: _) => v.toInteger.map some
  | .null => .ok none
  | v => v.toInteger.map some

/-- The integer of a field, none if there is no such field. -/
def integer (c : Constants) (name : String) : Except Json.IntegerFault (Option Int) :=
  integerOf (c.get name .null)

/-- The seconds between blocks.  Newer protocols publish `minimal_block_delay`, older
ones `time_between_blocks`, a list that begins with the delay. -/
def blockTime (c : Constants) : Except Json.IntegerFault (Option Int) :=
  match Json.field? c.fields "minimal_block_delay" with
  | some v => integerOf v
  | none => c.integer "time_between_blocks"

/-- The number of blocks in a cycle. -/
def blocksPerCycle (c : Constants) : Except Json.IntegerFault (Option Int) :=
  c.integer "blocks_per_cycle"

/-- The gas that one operation may use. -/
def hardGasLimitPerOperation (c : Constants) : Except Json.IntegerFault (Option Int) :=
  c.integer "hard_gas_limit_per_operation"

/-- The gas that one block may use. -/
def hardGasLimitPerBlock (c : Constants) : Except Json.IntegerFault (Option Int) :=
  c.integer "hard_gas_limit_per_block"

/-- The storage that one operation may use. -/
def hardStorageLimitPerOperation (c : Constants) : Except Json.IntegerFault (Option Int) :=
  c.integer "hard_storage_limit_per_operation"

/-- The price of a byte of storage, in mutez. -/
def costPerByte (c : Constants) : Except Json.IntegerFault (Option Int) :=
  c.integer "cost_per_byte"

/-- The storage that an origination takes. -/
def originationSize (c : Constants) : Except Json.IntegerFault (Option Int) :=
  c.integer "origination_size"

/-- A copy of the document with fields changed; the constants stay as they are. -/
def exportWith (c : Constants) (changes : List (String × Json)) : Json :=
  .object (Json.updateFields c.fields changes)

end Constants

end TezosNode

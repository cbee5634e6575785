import TezosNode.Block
import TezosNode.Client.Call
import TezosNode.Json.Printer

set_option autoImplicit false

/-!
# Client: endpoints

The endpoints of a node in common use: where each is found, and what its answer has to
be.  A body that is no such answer is a failure that carries the body.
-/

namespace TezosNode.Endpoint

/-! ## Paths -/

/-- The chain that is meant where none is named. -/
def mainChain : String := "main"

/-- Everything about the main chain. -/
def chainPath : String := "/chains/" ++ mainChain

/-- A block by its hash, its level or an alias. -/
def blockPath (id : String) : String := chainPath ++ "/blocks/" ++ id

/-- The constants in effect at a block. -/
def constantsPath (blockHash : String) : String := blockPath blockHash ++ "/context/constants"

/-- The contract of an address. -/
def contractPath (blockHash address : String) : String :=
  blockPath blockHash ++ "/context/contracts/" ++ address

/-- The balance of an address. -/
def balancePath (blockHash address : String) : String :=
  contractPath blockHash address ++ "/balance"

/-- The counter of an address. -/
def counterPath (blockHash address : String) : String :=
  contractPath blockHash address ++ "/counter"

/-- The id of the main chain. -/
def chainIdPath : String := chainPath ++ "/chain_id"

/-- Whether the node has caught up with the chain. -/
def statusPath : String := chainPath ++ "/is_bootstrapped"

/-- Where operations are injected. -/
def injectionPath : String := "/injection/operation"

/-! ## Answers -/

/-- The value of a document.  One that is nested too deep is a failure that is not the
client's. -/
def jsonOf (document : Document) (body : Bytes) : Except Failure Json :=
  (Json.decode body).mapError fun
    | .tooDeep part => .foreign (.nesting part)
    | fault => .undecodable document (.json fault) body

/-- The block of a body. -/
def blockOf (body : Bytes) : Except Failure Block := do
  let v ← jsonOf .block body
  (Block.ofJson v).mapError fun r => .undecodable .block (.schema r) body

/-- The constants of a body, in effect at a block. -/
def constantsOf (blockHash : String) (body : Bytes) : Except Failure Constants := do
  let v ← jsonOf .constants body
  (Constants.ofJson v (some blockHash)).mapError fun r =>
    .undecodable .constants (.schema r) body

/-- The integer of a body.  An infinite number is a failure that is not the client's. -/
def integerOf (document : Document) (body : Bytes) : Except Failure Int := do
  let v ← jsonOf document body
  v.toInteger.mapError fun
    | .infinite => .foreign .infiniteInteger
    | fault => .undecodable document (.noInteger fault) body

/-- The string of a body. -/
def stringOf (document : Document) (body : Bytes) : Except Failure String := do
  match ← jsonOf document body with
  | .string s => return s
  | v => throw (.undecodable document (.noString v) body)

/-- The status of a body. -/
def statusOf (body : Bytes) : Except Failure Bool := do
  let v ← jsonOf .bootstrapStatus body
  match v.get? "bootstrapped" with
  | some b => return b.isTruthy
  | none => throw (.undecodable .bootstrapStatus (.noStatus v) body)

/-! ## Requests -/

/-- A block by its hash, its level or an alias. -/
def block (id : String) : Action Block := do
  let body ← Action.get (blockPath id) []
  blockOf body

/-- The current head of the main chain. -/
def head : Action Block := block "head"

/-- The constants in effect at a block. -/
def constants (blockHash : String) : Action Constants := do
  let body ← Action.get (constantsPath blockHash) []
  constantsOf blockHash body

/-- The balance of an address in mutez. -/
def balance (blockHash address : String) : Action Int := do
  let body ← Action.get (balancePath blockHash address) []
  integerOf .balance body

/-- The counter of an address. -/
def counter (blockHash address : String) : Action Int := do
  let body ← Action.get (counterPath blockHash address) []
  integerOf .counter body

/-- The id of the main chain. -/
def chainId : Action String := do
  let body ← Action.get chainIdPath []
  stringOf .chainId body

/-- Whether the node has caught up with the chain. -/
def isBootstrapped : Action Bool := do
  let body ← Action.get statusPath []
  statusOf body

/-- Injects a signed operation, given in hexadecimal digits, and returns its hash. -/
def injectOperation (operation chain : String) : Action String := do
  let document := Text.Utf8.encode (Json.stringText operation)
  let body ← Action.post injectionPath document [("chain", chain)]
  stringOf .operationHash body

end TezosNode.Endpoint

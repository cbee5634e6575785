import TezosNode.Schema.Catalogue

set_option autoImplicit false

/-!
# Blocks

A block as a node reports it.  The document is kept whole; the fields that the
client uses have accessors, which are `none` where the field is absent.
-/

namespace TezosNode

/-- A block: the fields of its document. -/
structure Block where
  fields : List (String × Json)
  deriving Repr, Inhabited

namespace Block

/-- The document of a block. -/
def data (b : Block) : Json := .object b.fields

/-- Reads a block from its document. -/
def ofJson (v : Json) : Except Schema.Rejection Block :=
  match Schema.block.validate v with
  | .error r => .error r
  | .ok () =>
    match v with
    | .object fields => .ok ⟨fields⟩
    | _ => .ok ⟨[]⟩

/-- A field of the block. -/
def field? (b : Block) (name : String) : Option Json := Json.field? b.fields name

/-- A field of the header. -/
def headerField? (b : Block) (name : String) : Option Json :=
  (b.field? "header").bind fun h => h.get? name

/-- The hash. -/
def hash? (b : Block) : Option Json := b.field? "hash"

/-- The chain. -/
def chainId? (b : Block) : Option Json := b.field? "chain_id"

/-- The protocol. -/
def protocol? (b : Block) : Option Json := b.field? "protocol"

/-- The level, from the header. -/
def level? (b : Block) : Option Json := b.headerField? "level"

/-- The time of the block, from the header. -/
def timestamp? (b : Block) : Option Json := b.headerField? "timestamp"

/-- The hash as text, which every block that has been read has. -/
def hash (b : Block) : String :=
  match b.hash? with
  | some (.string s) => s
  | _ => ""

end Block

end TezosNode

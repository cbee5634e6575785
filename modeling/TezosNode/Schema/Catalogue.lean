import TezosNode.Schema.Basic

set_option autoImplicit false

/-!
# Schema: the documents of a node

The schemas of the documents that a node sends: an error payload in its lenient
and its strict form, a block and the constants of a network.
-/

namespace TezosNode.Schema

/-- A payload of error records whose fields may be left out. -/
def errorPayload : Schema where
  name := "rpc_errors.schema.json"
  rules :=
    [.kind .array,
      .items [.kind .object, .fields [("kind", [.kind .string]), ("error", [.kind .string])]]]

/-- A payload of at least one error record, each complete. -/
def strictErrorPayload : Schema where
  name := "rpc_errors.strict.schema.json"
  rules :=
    [.kind .array, .nonEmpty .array,
      .items
        [.kind .object, .required ["kind", "error"],
          .fields [("kind", [.kind .string]), ("error", [.kind .string])]]]

/-- A block. -/
def block : Schema where
  name := "block.schema.json"
  rules :=
    [.kind .object, .required ["hash"],
      .fields
        [("hash", [.kind .string, .nonEmpty .string]),
          ("chain_id", [.kind .string]),
          ("protocol", [.kind .string]),
          ("header",
            [.kind .object,
              .fields [("level", [.kind .integer]), ("timestamp", [.kind .string])]])]]

/-- The constants of a network, whose fields differ from protocol to protocol. -/
def constants : Schema where
  name := "constants.schema.json"
  rules := [.kind .object, .nonEmpty .object]

/-- All schemas. -/
def catalogue : List Schema := [errorPayload, strictErrorPayload, block, constants]

end TezosNode.Schema

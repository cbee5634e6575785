import TezosNode.Json.Parser
import TezosNode.Schema.Catalogue

set_option autoImplicit false

/-!
# Error payloads

A node may answer a request with the status of success and yet report a failure, by a
JSON array of error records in place of the document asked for.  `classify` tells such
a body from others.

The lenient way looks for the word `error` first and then insists on the shape; the
strict way recognises only arrays of complete records and refuses nothing.
-/

namespace TezosNode

/-- A record of an error payload. -/
structure ErrorRecord where
  kind : String
  error : String
  deriving DecidableEq, Repr, Inhabited

namespace ErrorPayload

/-- Why a document is not what it should be. -/
inductive DocumentFault where
  | json (fault : Json.Fault)
  | schema (rejection : Schema.Rejection)
  deriving Repr, Inhabited

/-- The wording of a fault. -/
def DocumentFault.message : DocumentFault → String
  | .json fault => fault.message
  | .schema rejection => rejection.message

/-- The word that a lenient look at a body goes by. -/
def mark : Bytes := Text.Utf8.encode "error".toList

/-- Whether a part of the octets is `part`. -/
def containsPart (part : Bytes) : Bytes → Bool
  | [] => part.isEmpty
  | b :: rest => part.isPrefixOf (b :: rest) || containsPart part rest

/-- The text of a field, empty if there is none. -/
def textField (v : Json) (name : String) : String :=
  match v.get? name with
  | some (.string s) => s
  | _ => ""

/-- The record of an element. -/
def recordOf (v : Json) : ErrorRecord := ⟨textField v "kind", textField v "error"⟩

/-- The records of an array. -/
def recordsOf : Json → List ErrorRecord
  | .array items => items.map recordOf
  | _ => []

/-- The error records of a body, recognised the strict way. -/
def classifyStrict (body : Bytes) : Option (List ErrorRecord) :=
  match Json.decode body with
  | .error _ => none
  | .ok v => if Schema.strictErrorPayload.accepts v then some (recordsOf v) else none

/-- The error records of a body, recognised the lenient way.  An array without records
reports nothing. -/
def classifyLenient (body : Bytes) : Except DocumentFault (Option (List ErrorRecord)) :=
  if containsPart mark body then
    match Json.decode body with
    | .error fault => .error (.json fault)
    | .ok v =>
      match Schema.errorPayload.validate v with
      | .error rejection => .error (.schema rejection)
      | .ok () =>
        match recordsOf v with
        | [] => .ok none
        | records => .ok (some records)
  else .ok none

/-- The error records of a body, if it is an error payload.  In both ways a document that is
nested too deep counts as one that cannot be read. -/
def classify (strict : Bool) (body : Bytes) : Except DocumentFault (Option (List ErrorRecord)) :=
  if strict then .ok (classifyStrict body) else classifyLenient body

/-- The part for which there is no room in a body that is read to be classified: always in
the strict way, and in the lenient way if the body has the word. -/
def tooDeep? (strict : Bool) (body : Bytes) : Option Json.Part :=
  if strict || containsPart mark body then Json.tooDeep? body else none

end ErrorPayload

end TezosNode

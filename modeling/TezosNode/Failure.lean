import TezosNode.Client.Transport
import TezosNode.ErrorPayload
import TezosNode.Json.Integer
import TezosNode.Number.Decimal

set_option autoImplicit false

/-!
# Failures

Everything that can end an operation without a result.  The failures of the client's
own have a category, an exit code and, once a response has been received, the octets
read from it.  A failure that is not the client's own passes through it unchanged.
-/

namespace TezosNode

/-- The categories of the client's own failures. -/
inductive Category where
  | general
  | construction
  | transport
  | bodyRead
  | httpStatus
  | malformedPayload
  | nodeError
  | undecodable
  | bootstrap
  deriving DecidableEq, Repr, Inhabited

/-- The exit code of a program that ends with a failure. -/
def Category.exitCode : Category → Nat
  | .general => 1
  | .construction => 2
  | .transport => 3
  | .bodyRead => 4
  | .httpStatus => 5
  | .malformedPayload => 6
  | .nodeError => 7
  | .undecodable => 8
  | .bootstrap => 9

/-- The name of a category in log records. -/
def Category.name : Category → String
  | .general => "TezosError"
  | .construction => "RequestConstructionError"
  | .transport => "TransportError"
  | .bodyRead => "BodyReadError"
  | .httpStatus => "HTTPStatusError"
  | .malformedPayload => "MalformedErrorPayloadError"
  | .nodeError => "RPCError"
  | .undecodable => "ResponseDecodeError"
  | .bootstrap => "BootstrapError"

/-! ## Details -/

/-- The documents that the endpoints of a node answer with. -/
inductive Document where
  | block
  | constants
  | balance
  | counter
  | chainId
  | bootstrapStatus
  | operationHash
  deriving DecidableEq, Repr, Inhabited

/-- A document in messages. -/
def Document.name : Document → String
  | .block => "block"
  | .constants => "network constants"
  | .balance => "balance"
  | .counter => "counter"
  | .chainId => "chain id"
  | .bootstrapStatus => "bootstrap status"
  | .operationHash => "operation hash"

/-- Why a body is not the document that it should be. -/
inductive Mismatch where
  | json (fault : Json.Fault)
  | schema (rejection : Schema.Rejection)
  | noInteger (fault : Json.IntegerFault)
  | noString (value : Json)
  | noStatus (value : Json)
  deriving Repr, Inhabited

/-- The wording of a mismatch. -/
def Mismatch.message : Mismatch → String
  | .json fault => fault.message
  | .schema rejection => rejection.message
  | .noInteger fault => fault.message
  | .noString value => "expected string, got " ++ value.shown
  | .noStatus value => value.shown

/-- The steps of a bootstrap; `other` is for callers with steps of their own. -/
inductive BootstrapStep where
  | head
  | constants
  | other (name : String)
  deriving DecidableEq, Repr, Inhabited

/-- The name of a step. -/
def BootstrapStep.name : BootstrapStep → String
  | .head => "head"
  | .constants => "constants"
  | .other name => name

/-- The step of a name. -/
def BootstrapStep.ofName (name : String) : BootstrapStep :=
  if name = "head" then .head else if name = "constants" then .constants else .other name

/-- What a step fetches, in messages. -/
def BootstrapStep.label : BootstrapStep → String
  | .head => "chain head"
  | .constants => "network constants"
  | .other name => name

/-- Failures that are not the client's own. -/
inductive Foreign where
  /-- a fault of a transport that no operation expects -/
  | fault (f : Fault)
  /-- options that make a URL invalid -/
  | url (f : Url.Fault)
  /-- a request through a transport that has been closed -/
  | closedTransport
  /-- a document that is nested deeper than there is room for -/
  | nesting (part : Json.Part)
  /-- an infinite number where an integer belongs -/
  | infiniteInteger
  /-- a time between two readings of the clock that no double can hold -/
  | unboundedDuration
  /-- an amount that no decimal can hold -/
  | amount (signal : Decimal.Signal)
  /-- a value that the caller refuses -/
  | value (text : String)
  deriving DecidableEq, Repr, Inhabited

/-- The wording of a foreign failure. -/
def Foreign.message : Foreign → String
  | .fault f => f.message
  | .url f => f.message
  | .closedTransport => "Cannot send a request, as the client has been closed."
  | .nesting part => (Json.Fault.tooDeep part).message
  | .infiniteInteger => Json.IntegerFault.infinite.message
  | .unboundedDuration => "integer division result too large for a float"
  | .amount signal => signal.message
  | .value text => text

/-! ## Failures -/

/-- What ends an operation without a result. -/
inductive Failure where
  /-- a request cannot be built from its URL -/
  | construction (fault : Request.Fault)
  /-- a request cannot be sent -/
  | transport (fault : Fault)
  /-- a response breaks off after the octets received -/
  | bodyRead (fault : Fault) (received : Bytes)
  /-- a response whose status is not that of success -/
  | httpStatus (status : Int) (body : Bytes)
  /-- a body that looks like an error payload and is none -/
  | malformedPayload (fault : ErrorPayload.DocumentFault) (body : Bytes)
  /-- an error payload, of at least one record -/
  | nodeError (first : ErrorRecord) (rest : List ErrorRecord) (body : Option Bytes)
  /-- a body that is not the document asked for -/
  | undecodable (document : Document) (mismatch : Mismatch) (body : Bytes)
  /-- a step of a bootstrap has failed -/
  | bootstrap (step : BootstrapStep) (cause : Failure)
  /-- a failure of a category that its maker words -/
  | stated (category : Category) (text : String) (body : Option Bytes)
  | foreign (f : Foreign)
  deriving Repr, Inhabited

namespace Failure

/-- The category of a failure, if it is the client's own. -/
def category? : Failure → Option Category
  | .construction _ => some .construction
  | .transport _ => some .transport
  | .bodyRead _ _ => some .bodyRead
  | .httpStatus _ _ => some .httpStatus
  | .malformedPayload _ _ => some .malformedPayload
  | .nodeError _ _ _ => some .nodeError
  | .undecodable _ _ _ => some .undecodable
  | .bootstrap _ _ => some .bootstrap
  | .stated category _ _ => some category
  | .foreign _ => none

/-- Whether a failure is the client's own. -/
def isOwn (f : Failure) : Bool := f.category?.isSome

/-- The octets that were read from the response to the failing request; none if there
was no response. -/
def body? : Failure → Option Bytes
  | .construction _ => none
  | .transport _ => none
  | .bodyRead _ received => some received
  | .httpStatus _ body => some body
  | .malformedPayload _ body => some body
  | .nodeError _ _ body => body
  | .undecodable _ _ body => some body
  | .bootstrap _ cause => cause.body?
  | .stated _ _ body => body
  | .foreign _ => none

/-- The wording of a failure. -/
def message : Failure → String
  | .construction fault => "failed to construct request: " ++ fault.message
  | .transport fault => "failed to complete request: " ++ fault.message
  | .bodyRead fault _ => "could not read response body: " ++ fault.message
  | .httpStatus status body =>
    "response returned code " ++ toString status ++ " with body "
      ++ String.ofList (Text.Utf8.decodeLossy body)
  | .malformedPayload fault _ => "could not unmarshal rpc error: " ++ fault.message
  | .nodeError first _ _ => "rpc error (" ++ first.kind ++ "): " ++ first.error
  | .undecodable document mismatch _ =>
    "could not decode " ++ document.name ++ ": " ++ mismatch.message
  | .bootstrap step cause =>
    "could not initialize library with network constants: failed to fetch " ++ step.label
      ++ ": " ++ cause.message
  | .stated _ text _ => text
  | .foreign f => f.message

/-- All records of an error payload. -/
def records : Failure → List ErrorRecord
  | .nodeError first rest _ => first :: rest
  | _ => []

/-- The failure of an error payload; none without a record. -/
def ofRecords? (records : List ErrorRecord) (body : Option Bytes) : Option Failure :=
  match records with
  | [] => none
  | first :: rest => some (.nodeError first rest body)

end Failure

end TezosNode

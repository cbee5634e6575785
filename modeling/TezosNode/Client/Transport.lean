import TezosNode.Config.Basic
import TezosNode.Url.Domain
import TezosNode.Url.Form

set_option autoImplicit false

/-!
# Client: transports

What passes between a client and a node: requests on one side; on the other replies,
which are faults of the sending or responses that arrive in chunks and may break off.

A transport may keep a pool of connections, of which those that are idle can be
closed; once it has been closed itself it sends nothing any more.
-/

namespace TezosNode

/-! ## Requests -/

/-- The methods of requests. -/
inductive Method where
  | get
  | post
  | delete
  deriving DecidableEq, Repr, Inhabited

/-- The name of a method. -/
def Method.name : Method → String
  | .get => "GET"
  | .post => "POST"
  | .delete => "DELETE"

/-- A request.  Its host header is that of the URL it was built from. -/
structure Request where
  method : Method
  url : Url
  hostHeader : Option (List Char)
  /-- the content, if the request has any -/
  body : Option Bytes
  deriving DecidableEq, Repr, Inhabited

namespace Request

/-- Why there is no request to a text. -/
inductive Fault where
  | url (f : Url.Fault)
  /-- a host that is no domain name -/
  | domain (f : Url.Domain.Fault)
  deriving DecidableEq, Repr, Inhabited

/-- The wording of a fault. -/
def Fault.message : Fault → String
  | .url f => f.message
  | .domain f => f.message

/-- Builds a request from the text of its URL, whose host is checked. -/
def make (method : Method) (url : List Char) (body : Option Bytes) : Except Fault Request :=
  match Url.parse url with
  | .error f => .error (.url f)
  | .ok u =>
    match Url.Domain.check u.host with
    | .error f => .error (.domain f)
    | .ok () => .ok ⟨method, u, u.hostHeader?, body⟩

/-- A request with parameters after those of its URL. -/
def attach (r : Request) (options : List Url.Param) : Except Url.Fault Request :=
  (r.url.attach options).map fun u => { r with url := u }

/-- A request with parameters of code points after those of its URL. -/
def attachWide (r : Request) (options : List Url.WideParam) : Except Url.AttachFault Request :=
  (r.url.attachWide options).map fun u => { r with url := u }

/-- The type of the content, which is always JSON. -/
def contentType? (r : Request) : Option String := r.body.map fun _ => "application/json"

/-- The number of octets of the content. -/
def contentLength? (r : Request) : Option Nat := r.body.map List.length

end Request

/-! ## Faults -/

/-- The kinds of fault that sending a request or reading a response can end in. -/
inductive FaultKind where
  -- faults of the exchange
  | connect
  | connectTimeout
  | read
  | readTimeout
  | write
  | writeTimeout
  | poolTimeout
  | close
  | proxy
  | network
  | localProtocol
  | remoteProtocol
  | unsupportedProtocol
  | tooManyRedirects
  | decoding
  | timeout
  | transport
  | request
  | exchange
  -- faults in the use of a response's content
  | stream
  | streamConsumed
  | streamClosed
  | responseNotRead
  | requestNotRead
  -- faults of the program around them
  | invalidUrl
  | cookieConflict
  | value
  | runtime
  | type
  deriving DecidableEq, Repr, Inhabited

/-- The families of faults. -/
inductive FaultFamily where
  | exchange
  | stream
  | program
  deriving DecidableEq, Repr, Inhabited

/-- The family of a kind of fault. -/
def FaultKind.family : FaultKind → FaultFamily
  | .stream | .streamConsumed | .streamClosed | .responseNotRead | .requestNotRead => .stream
  | .invalidUrl | .cookieConflict | .value | .runtime | .type => .program
  | _ => .exchange

/-- A fault with the text that came with it. -/
structure Fault where
  kind : FaultKind
  text : String
  deriving DecidableEq, Repr, Inhabited

/-- The wording of a fault.  Some kinds have one of their own. -/
def Fault.message (f : Fault) : String :=
  match f.kind with
  | .streamConsumed =>
    "Attempted to read or stream some content, but the content has already been streamed. "
      ++ "For requests, this could be due to passing a generator as request content, "
      ++ "and then receiving a redirect response or a secondary request "
      ++ "as part of an authentication flow."
      ++ "For responses, this could be due to attempting to stream the response content "
      ++ "more than once."
  | .streamClosed =>
    "Attempted to read or stream content, but the stream has been closed."
  | .responseNotRead =>
    "Attempted to access streaming response content, without having called \x60read()\x60."
  | .requestNotRead =>
    "Attempted to access streaming request content, without having called \x60read()\x60."
  | _ => f.text

/-! ## Replies -/

/-- A response: its status, the chunks of its content, and the fault that breaks it
off after them, if any. -/
structure Response where
  status : Int
  chunks : List Bytes
  broken : Option Fault
  deriving DecidableEq, Repr, Inhabited

/-- All content that a response delivers. -/
def Response.content (r : Response) : Bytes := r.chunks.flatten

/-- What a node makes of a request. -/
inductive Reply where
  /-- the request cannot be sent -/
  | refused (fault : Fault)
  | response (r : Response)
  deriving DecidableEq, Repr, Inhabited

/-- The reply of a node that has nothing to say. -/
def Reply.notFound : Reply := .response ⟨404, [Text.Utf8.encode "not found".toList], none⟩

/-! ## Connections and transports -/

/-- The state of a connection in a pool. -/
inductive ConnectionState where
  | idle
  | active
  | closed
  deriving DecidableEq, Repr, Inhabited

/-- A connection in a pool, and how often it has been closed. -/
structure Connection where
  state : ConnectionState
  closings : Nat
  deriving DecidableEq, Repr, Inhabited

/-- A connection after the idle ones have been closed. -/
def Connection.closeIdle (c : Connection) : Connection :=
  match c.state with
  | .idle => ⟨.closed, c.closings + 1⟩
  | _ => c

/-- The limits on the waits of a transport. -/
structure Timeouts where
  connect : Seconds
  read : Seconds
  write : Seconds
  pool : Seconds
  deriving DecidableEq, Repr, Inhabited

/-- One limit on all waits. -/
def Timeouts.all (limit : Seconds) : Timeouts := ⟨limit, limit, limit, limit⟩

/-- A transport. -/
structure Transport where
  /-- the connections, if the transport has a pool that can be looked into -/
  pool : Option (List Connection)
  isClosed : Bool
  deriving DecidableEq, Repr, Inhabited

namespace Transport

/-- A transport without a pool. -/
def plain : Transport := ⟨none, false⟩

/-- A transport with connections in the given states. -/
def pooled (states : List ConnectionState) : Transport :=
  ⟨some (states.map (⟨·, 0⟩)), false⟩

/-- A transport after its idle connections have been closed. -/
def closeIdle (t : Transport) : Transport :=
  { t with pool := t.pool.map (·.map Connection.closeIdle) }

/-- A transport that sends nothing any more. -/
def close (t : Transport) : Transport := { t with isClosed := true }

end Transport

end TezosNode

import TezosNode.Client.Session

set_option autoImplicit false

/-!
# Client: calls

A call sends one request and reads the whole response.  It ends in one way, decided in
this order: the request cannot be sent, the response breaks off, its status is not that
of success, its body is nested too deep, its body is an error payload, or its body is the
result.

Every response is closed before the call ends, and the idle connections of the
transport are closed after a success.
-/

namespace TezosNode

/-! ## What a response amounts to -/

/-- The status of success. -/
def Response.success : Int := 200

/-- The error records of a body, if it is an error payload.  A body that is nested too deep to
be looked into is a failure that is not the client's own. -/
def ErrorPayload.inspect (strict : Bool) (body : Bytes) :
    Except Failure (Option (List ErrorRecord)) :=
  match tooDeep? strict body with
  | some part => .error (.foreign (.nesting part))
  | none => (classify strict body).mapError fun fault => .malformedPayload fault body

/-- The failure that a complete response amounts to, if any. -/
def Response.verdict (strict : Bool) (status : Int) (body : Bytes) : Except Failure Unit :=
  if status ≠ Response.success then .error (.httpStatus status body)
  else
    match ErrorPayload.inspect strict body with
    | .error f => .error f
    | .ok (some (first :: rest)) => .error (.nodeError first rest (some body))
    | .ok _ => .ok ()

/-! ## Log records -/

/-- What a log record tells of a failure beside its category. -/
def Failure.details : Failure → List (String × Json)
  | .transport fault => [("error", .string fault.message)]
  | .httpStatus _ _ => []
  | .nodeError first _ _ => [("kind", .string first.kind)]
  | f => [("error", .string f.message)]

/-- What the log record of a failed call tells after the details of the call. -/
def Failure.report (f : Failure) (details : List (String × Json)) : List (String × Json) :=
  details ++ ("error_class", .string ((f.category?.map Category.name).getD "")) :: f.details

/-- What the log records of a call have in common. -/
def Request.details (r : Request) : List (String × Json) :=
  [("method", .string r.method.name), ("path", .string (String.ofList r.url.decodedPath))]

/-- What the log record before a call tells. -/
def Request.opening (r : Request) : List (String × Json) :=
  r.details ++ [("query", .string (String.ofList r.url.queryText))]

/-- The milliseconds between two readings of the clock, to two decimal places; none if
no double can hold them. -/
def milliseconds? (start stop : Int) : Option Binary64 :=
  match Binary64.ofRatio (stop < start) (stop - start).natAbs 1000000 with
  | .infinite _ => none
  | x => some (x.roundPlaces 2)

/-- What the log records after a complete response tell of it. -/
def Response.details (status : Int) (body : Bytes) (duration : Binary64) :
    List (String × Json) :=
  [("status_code", .integer status), ("bytes", .integer body.length),
    ("duration_ms", .double duration)]

namespace Action

/-- Logs a failure of a call and ends with it. -/
def fail {α : Type} (details : List (String × Json)) (f : Failure) : Action α := do
  log .warning "rpc_failed" (f.report details)
  throw f

/-! ## Steps of a call -/

/-- Reads the chunks of a response after the octets received from it.  A response that has
been read to its end is closed. -/
def readFrom (number : Nat) (broken : Option Fault) (received : Bytes) :
    List Bytes → Action Bytes
  | chunk :: rest => readFrom number broken (received ++ chunk) rest
  | [] =>
    match broken with
    | none => do
      close number
      return received
    | some fault =>
      if fault.kind.family = .program then throw (.foreign (.fault fault))
      else throw (.bodyRead fault received)

/-- Reads a whole response.  It is closed in the end, however the reading ends. -/
def receive (details : List (String × Json)) (transport : Nat) (r : Response) :
    Action Bytes := do
  let number ← accept transport r
  try
    tryCatch (readFrom number r.broken [] r.chunks) fun f =>
      if f.category? = some .bodyRead then fail details f else throw f
  finally
    close number

/-- The milliseconds that a call has taken. -/
def measure (start stop : Int) : Action Binary64 :=
  match milliseconds? start stop with
  | some duration => return duration
  | none => throw (.foreign .unboundedDuration)

/-- Makes the result of a request that was sent at a time from the reply to it. -/
def settle (r : Request) (transport : Nat) (start : Int) : Reply → Action Bytes
  | .refused fault =>
    if fault.kind.family = .exchange then fail r.details (.transport fault)
    else throw (.foreign (.fault fault))
  | .response response => do
    let body ← receive r.details transport response
    let duration ← measure start (← readClock)
    let details := r.details ++ Response.details response.status body duration
    let s ← get
    match Response.verdict s.client.config.strictErrors response.status body with
    | .error f => if f.isOwn then fail details f else throw f
    | .ok () =>
      modify (·.closeIdle transport)
      log .debug "rpc_complete" details
      return body

/-- Sends a request through the transport in use. -/
def perform (r : Request) : Action Bytes := do
  let s ← get
  let transport := s.client.transport
  log .debug "rpc_request" r.opening
  let start ← readClock
  settle r transport start (← send transport r)

/-- Calls the node. -/
def call (method : Method) (path : String) (body : Option Bytes) (options : List Url.Param) :
    Action Bytes := do
  let s ← get
  match Request.make method (s.client.host.toList ++ path.toList) body with
  | .error fault => throw (.construction fault)
  | .ok request =>
    match request.attach options with
    | .error fault => throw (.foreign (.url fault))
    | .ok request => perform request

/-- Asks for a document. -/
def get (path : String) (options : List Url.Param) : Action Bytes := call .get path none options

/-- Sends a document. -/
def post (path : String) (body : Bytes) (options : List Url.Param) : Action Bytes :=
  call .post path (some body) options

/-- Asks for a deletion. -/
def delete (path : String) (options : List Url.Param) : Action Bytes :=
  call .delete path none options

end Action

end TezosNode

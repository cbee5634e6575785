import TezosNode.Constants
import TezosNode.Failure
import TezosNode.Host
import TezosNode.Log.Basic

set_option autoImplicit false

/-!
# Client: sessions

A client and the world it acts in: the transports it has been given, the replies that
the node will give, the readings that the clock will show, and a trace of everything
that happened.  An `Action` runs in a session and may end with a failure; what it did
before stays in the session.
-/

namespace TezosNode

/-- A client for one node. -/
structure Client where
  /-- the URL of the node -/
  host : String
  config : Config
  /-- the transport in use, by its place among those of the session -/
  transport : Nat
  /-- the constants of the network, once they are known -/
  constants : Option Constants
  deriving Repr, Inhabited

/-- A client without constants, for a host or else for that of its settings. -/
def Client.make (host : Option String) (config : Config) (transport : Nat) :
    Except Host.Fault Client :=
  (Host.normalize (host.getD config.host)).map (⟨·, config, transport, none⟩)

/-- The log record of an event of a client, which tells its host. -/
def Client.recordOf (c : Client) (level : Log.Level) (event : String)
    (fields : List (String × Json)) : Log.Record :=
  .make level event [] [("component", .string "rpc"), ("host", .string c.host)] fields

/-- What happens in a session.  Its responses are numbered as they come. -/
inductive Event where
  /-- a request has been given to a transport -/
  | sent (transport : Nat) (request : Request)
  /-- a transport that has been closed has turned a request away -/
  | declined (transport : Nat) (request : Request)
  /-- a transport has returned a response -/
  | received (transport number : Nat) (response : Response)
  /-- a response has been closed -/
  | released (number : Nat)
  /-- the idle connections of a transport have been closed -/
  | idleClosed (transport : Nat)
  | logged (record : Log.Record)
  deriving Repr, Inhabited

/-- A client and the world it acts in. -/
structure Session where
  client : Client
  transports : List Transport
  /-- the replies to come; after them the node has nothing to say -/
  replies : List Reply
  /-- the readings of the clock to come, in nanoseconds; the last one stays -/
  clock : List Int
  /-- what happened, in order -/
  trace : List Event
  deriving Repr, Inhabited

/-- Something done in a session, with a result or a failure. -/
abbrev Action (α : Type) : Type := ExceptT Failure (StateM Session) α

/-- What comes of an action in a session, and the session after it. -/
def Action.runIn {α : Type} (act : Action α) (s : Session) : Except Failure α × Session :=
  act.run.run s

namespace Session

/-! ## Views of the trace -/

/-- The requests sent, each with its transport. -/
def requests (trace : List Event) : List (Nat × Request) :=
  trace.filterMap fun
    | .sent t r => some (t, r)
    | _ => none

/-- The records logged. -/
def records (trace : List Event) : List Log.Record :=
  trace.filterMap fun
    | .logged r => some r
    | _ => none

/-- The number of responses that have been received. -/
def receivedCount (trace : List Event) : Nat :=
  trace.countP fun
    | .received _ _ _ => true
    | _ => false

/-- The number of responses that have been closed. -/
def releasedCount (trace : List Event) : Nat :=
  trace.countP fun
    | .released _ => true
    | _ => false

/-- Whether a response is open: it has been received, and not been closed since. -/
def isOpen (trace : List Event) (number : Nat) : Bool :=
  let last := trace.reverse.find? fun
    | .received _ n _ | .released n => n == number
    | _ => false
  match last with
  | some (.received _ _ _) => true
  | _ => false

/-- How often the idle connections of a transport have been closed. -/
def idleCloseCount (trace : List Event) (transport : Nat) : Nat :=
  trace.countP fun
    | .idleClosed t => t == transport
    | _ => false

/-! ## The world around the client -/

/-- A session in which more has happened. -/
def note (s : Session) (events : List Event) : Session := { s with trace := s.trace ++ events }

/-- What the clock shows. -/
def time (s : Session) : Int := s.clock.headD 0

/-- The readings of a clock after the next one; the last one stays. -/
def laterReadings : List Int → List Int
  | [] => []
  | [t] => [t]
  | _ :: rest => rest

/-- A session after a look at the clock. -/
def tick (s : Session) : Session := { s with clock := laterReadings s.clock }

/-- What the node replies to the next request. -/
def reply (s : Session) : Reply := s.replies.headD .notFound

/-- A session after the node's next reply. -/
def answered (s : Session) : Session := { s with replies := s.replies.tail }

/-! ## Transports -/

/-- The transport of a number. -/
def transportAt (s : Session) (n : Nat) : Transport := s.transports.getD n .plain

/-- Makes the client use a transport of the session from now on. -/
def useTransport (s : Session) (n : Nat) : Session :=
  { s with client := { s.client with transport := n } }

/-- Adds a transport and makes the client use it. -/
def installTransport (s : Session) (t : Transport) : Session :=
  { s with transports := s.transports ++ [t] }.useTransport s.transports.length

/-- A session in which a transport has no idle connections left. -/
def withoutIdle (s : Session) (n : Nat) : Session :=
  { s with transports := s.transports.modify n Transport.closeIdle }

/-- Closes the idle connections of a transport. -/
def closeIdle (s : Session) (n : Nat) : Session := (s.withoutIdle n).note [.idleClosed n]

/-- Closes the transport in use. -/
def closeTransport (s : Session) : Session :=
  { s with transports := s.transports.modify s.client.transport Transport.close }

/-! ## Constants -/

/-- Replaces the constants of the network, whatever they are. -/
def setConstants (s : Session) (c : Constants) : Session :=
  { s with client := { s.client with constants := some c } }

end Session

/-! ## Steps of actions -/

namespace Action

/-- Adds to the trace. -/
def record (e : Event) : Action Unit := modify (·.note [e])

/-- Logs an event of the client. -/
def log (level : Log.Level) (event : String) (fields : List (String × Json)) : Action Unit := do
  let s ← get
  record (.logged (s.client.recordOf level event fields))

/-- Reads the clock. -/
def readClock : Action Int := modifyGet fun s => (s.time, s.tick)

/-- Takes the next reply of the node. -/
def nextReply : Action Reply := modifyGet fun s => (s.reply, s.answered)

/-- Gives a request to a transport, which sends nothing once it has been closed. -/
def send (transport : Nat) (r : Request) : Action Reply := do
  let s ← get
  if (s.transportAt transport).isClosed then
    record (.declined transport r)
    throw (.foreign .closedTransport)
  else
    record (.sent transport r)
    nextReply

/-- Takes a response from a transport and gives it a number. -/
def accept (transport : Nat) (r : Response) : Action Nat := do
  let s ← get
  let number := Session.receivedCount s.trace
  record (.received transport number r)
  return number

/-- Closes a response.  One that has been closed already stays as it is. -/
def close (number : Nat) : Action Unit := do
  let s ← get
  if Session.isOpen s.trace number then record (.released number)

end Action

end TezosNode

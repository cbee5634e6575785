import TezosNode.Client.Bootstrap

set_option autoImplicit false

/-!
# Client: operations

All that a caller may do with a session, one thing after another, and what comes of it.
An operation that fails leaves the session as far as it got, and the next one goes on
from there.
-/

namespace TezosNode

/-- What a caller may do with a session. -/
inductive Operation where
  | get (path : String) (options : List Url.Param)
  | post (path : String) (body : Bytes) (options : List Url.Param)
  | delete (path : String) (options : List Url.Param)
  | bootstrap
  | block (id : String)
  | constants (blockHash : String)
  | balance (blockHash address : String)
  | counter (blockHash address : String)
  | chainId
  | isBootstrapped
  | injectOperation (operation chain : String)
  /-- to use a transport of the session -/
  | useTransport (n : Nat)
  /-- to use a transport that the session has not had -/
  | installTransport (t : Transport)
  /-- to close the idle connections of the transport in use -/
  | closeIdle
  /-- to close the transport in use -/
  | closeTransport
  | setConstants (c : Constants)
  deriving Repr, Inhabited

/-- What comes of an operation. -/
inductive Answer where
  | body (octets : Bytes)
  | block (b : Block)
  | constants (c : Constants)
  | integer (n : Int)
  | text (s : String)
  | status (isReady : Bool)
  | done
  deriving Repr, Inhabited

/-- Performs an operation. -/
def Operation.perform : Operation → Action Answer
  | .get path options => Answer.body <$> Action.get path options
  | .post path body options => Answer.body <$> Action.post path body options
  | .delete path options => Answer.body <$> Action.delete path options
  | .bootstrap => Answer.constants <$> Action.bootstrap
  | .block id => Answer.block <$> Endpoint.block id
  | .constants blockHash => Answer.constants <$> Endpoint.constants blockHash
  | .balance blockHash address => Answer.integer <$> Endpoint.balance blockHash address
  | .counter blockHash address => Answer.integer <$> Endpoint.counter blockHash address
  | .chainId => Answer.text <$> Endpoint.chainId
  | .isBootstrapped => Answer.status <$> Endpoint.isBootstrapped
  | .injectOperation operation chain =>
    Answer.text <$> Endpoint.injectOperation operation chain
  | .useTransport n => do
    modify (·.useTransport n)
    return .done
  | .installTransport t => do
    modify (·.installTransport t)
    return .done
  | .closeIdle => do
    modify fun s => s.closeIdle s.client.transport
    return .done
  | .closeTransport => do
    modify (·.closeTransport)
    return .done
  | .setConstants c => do
    modify (·.setConstants c)
    return .done

namespace Session

/-- What comes of an operation in a session, and the session after it. -/
def perform (s : Session) (op : Operation) : Except Failure Answer × Session :=
  op.perform.runIn s

/-- A session after operations. -/
def performAll (s : Session) (ops : List Operation) : Session :=
  ops.foldl (fun s op => (s.perform op).2) s

end Session

end TezosNode

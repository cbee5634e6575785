import TezosNode.Client.Endpoint

set_option autoImplicit false

/-!
# Client: bootstrap

A client is ready once it knows the constants of the network: it fetches the head of
the chain and then the constants in effect there, and keeps them.  A step that fails
leaves the constants as they were.
-/

namespace TezosNode

/-- What the log record of a failed step of a bootstrap tells. -/
def BootstrapStep.report (step : BootstrapStep) (details : List (String × Json)) (f : Failure) :
    List (String × Json) :=
  ("step", .string step.name) :: details ++ [("error", .string f.message)]

namespace Action

/-- Runs a step of a bootstrap.  A failure of the client's own is logged and named
after the step. -/
def bootstrapStep {α : Type} (step : BootstrapStep) (details : List (String × Json))
    (act : Action α) : Action α :=
  tryCatch act fun f => do
    if f.isOwn then
      log .warning "bootstrap_failed" (step.report details f)
      throw (.bootstrap step f)
    else throw f

/-- Fetches the constants in effect at the head of the chain and keeps them. -/
def bootstrap : Action Constants := do
  let head ← bootstrapStep .head [] Endpoint.head
  let details := [("block_hash", Json.string head.hash)]
  let constants ← bootstrapStep .constants details (Endpoint.constants head.hash)
  modify (·.setConstants constants)
  log .info "bootstrap_complete" (details ++ [("level", head.level?.getD .null)])
  return constants

end Action

namespace Session

/-- A session with a fresh client. -/
def start (host : Option String) (config : Config) (transports : List Transport)
    (transport : Nat) (replies : List Reply) (clock : List Int) : Except Host.Fault Session :=
  (Client.make host config transport).map (⟨·, transports, replies, clock, []⟩)

/-- A session whose client has tried to get the constants of the network.  The client
is there even if that has failed; the failure comes with it. -/
def startReady (host : Option String) (config : Config) (transports : List Transport)
    (transport : Nat) (replies : List Reply) (clock : List Int) :
    Except Host.Fault (Except Failure Constants × Session) :=
  (start host config transports transport replies clock).map fun s => Action.bootstrap.runIn s

end Session

end TezosNode

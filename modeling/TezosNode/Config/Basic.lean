import TezosNode.Config.DotEnv
import TezosNode.Number.Numeral
import TezosNode.Number.Shortest

set_option autoImplicit false

/-!
# Configuration

The settings of a client: the node to talk to, the limit on every wait, and how error
payloads are recognised.  They are given one by one or taken from the environment,
after the variables of a file have been added to it.
-/

namespace TezosNode

/-- A span of time in seconds. -/
inductive Seconds where
  | whole (n : Int)
  | double (x : Binary64)
  deriving DecidableEq, Repr, Inhabited

namespace Seconds

/-- Whether a span is zero or negative, which no not-a-number is. -/
def isNonPositive : Seconds → Bool
  | .whole n => n ≤ 0
  | .double x => x.isNonPositive

/-- A span as text. -/
def text : Seconds → String
  | .whole n => toString n
  | .double x => x.text

end Seconds

/-- The settings of a client. -/
structure Config where
  host : String
  timeout : Seconds
  strictErrors : Bool
  deriving DecidableEq, Repr, Inhabited

namespace Config

/-- The node that is used if none is named. -/
def defaultHost : String := "http://localhost:8732"

/-- The limit on waits if none is given: ten seconds. -/
def defaultTimeout : Seconds := .double (.ofRatio false 10 1)

/-- Why settings are refused. -/
inductive Fault where
  | nonPositiveTimeout (timeout : Seconds)
  | timeoutNoNumber (text : String)
  | strictNoBoolean (text : String)
  /-- the file of variables is no text -/
  | undecodableFile (fault : Text.DecodeFault)
  /-- a variable of the file cannot be set -/
  | variable (fault : Environment.Fault)
  deriving DecidableEq, Repr, Inhabited

/-- The variable for the node. -/
def hostVariable : String := "TEZOS_RPC_URL"

/-- The variable for the limit on waits. -/
def timeoutVariable : String := "TEZOS_RPC_TIMEOUT"

/-- The variable for the strict recognition of error payloads. -/
def strictVariable : String := "TEZOS_RPC_STRICT_ERRORS"

/-- The variables that settings are taken from. -/
def variableNames : List String := [hostVariable, timeoutVariable, strictVariable]

/-- The wording of a fault. -/
def Fault.message : Fault → String
  | .nonPositiveTimeout t => "timeout must be positive, got " ++ t.text
  | .timeoutNoNumber text => timeoutVariable ++ " must be a number, got " ++ Text.Quoted.quote text
  | .strictNoBoolean text => strictVariable ++ " must be a boolean, got " ++ Text.Quoted.quote text
  | .undecodableFile fault => fault.message
  | .variable fault => fault.message

/-- Settings from their values. -/
def make (host : String) (timeout : Seconds) (strictErrors : Bool) : Except Fault Config :=
  if timeout.isNonPositive then .error (.nonPositiveTimeout timeout)
  else .ok ⟨host, timeout, strictErrors⟩

/-- The settings that hold where nothing else is said. -/
def default : Config := ⟨defaultHost, defaultTimeout, false⟩

/-! ## From the environment -/

/-- The node that an environment names. -/
def hostOf (env : Environment) : String := (env.get? hostVariable).getD defaultHost

/-- The limit on waits that an environment gives. -/
def timeoutOf (env : Environment) : Except Fault Seconds :=
  match env.get? timeoutVariable with
  | none => .ok defaultTimeout
  | some text =>
    match Numeral.double? text.toList with
    | some x => .ok (.double x)
    | none => .error (.timeoutNoNumber text)

/-- The truth value of a setting. -/
def boolean? (text : String) : Option Bool :=
  let word := String.ofList ((Text.strip Text.isBlank text.toList).map Char.toLower)
  if ["1", "true", "yes", "on"].contains word then some true
  else if ["0", "false", "no", "off", ""].contains word then some false
  else none

/-- Whether an environment asks for the strict recognition of error payloads. -/
def strictOf (env : Environment) : Except Fault Bool :=
  let text := (env.get? strictVariable).getD ""
  match boolean? text with
  | some b => .ok b
  | none => .error (.strictNoBoolean text)

/-- The settings that an environment gives. -/
def ofEnvironment (env : Environment) : Except Fault Config := do
  let timeout ← timeoutOf env
  let strict ← strictOf env
  make (hostOf env) timeout strict

/-- The settings of an environment to which the variables of a file have been added,
and that environment.  An environment that keeps files from being read stays as it is. -/
def load (env : Environment) (file : Option Bytes) : Except Fault Config × Environment :=
  match file.filter fun _ => !DotEnv.isDisabled env with
  | none => (ofEnvironment env, env)
  | some bytes =>
    match DotEnv.decode bytes with
    | .error fault => (.error (.undecodableFile fault), env)
    | .ok found =>
      match DotEnv.load env found with
      | (env, .ok ()) => (ofEnvironment env, env)
      | (env, .error fault) => (.error (.variable fault), env)

end Config

end TezosNode

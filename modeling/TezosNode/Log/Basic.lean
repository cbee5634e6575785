import TezosNode.Json.Basic

set_option autoImplicit false

/-!
# Log: records

A record is an event at a level with named values: those of the context, those bound to
the logger and those of the call, of which the later win.  Some names have been given
away already where values are bound or an event is called, and are refused there.
-/

namespace TezosNode.Log

/-! ## Levels -/

/-- How much an event matters. -/
inductive Level where
  | debug
  | info
  | warning
  | error
  | critical
  deriving DecidableEq, Repr, Inhabited

/-- The number of a level, by which levels and thresholds compare. -/
def Level.number : Level → Int
  | .debug => 10
  | .info => 20
  | .warning => 30
  | .error => 40
  | .critical => 50

/-- The name of a level. -/
def Level.name : Level → String
  | .debug => "debug"
  | .info => "info"
  | .warning => "warning"
  | .error => "error"
  | .critical => "critical"

/-- The levels from the least on. -/
def levels : List Level := [.debug, .info, .warning, .error, .critical]

/-! ## Records -/

/-- An event at a level with named values. -/
structure Record where
  level : Level
  event : String
  fields : List (String × Json)
  deriving Repr, Inhabited

/-- The record of an event, of which the values of the call win over those that the
logger carries, and those over the values of the context. -/
def Record.make (level : Level) (event : String) (context bound call : List (String × Json)) :
    Record :=
  ⟨level, event, Json.updateFields (Json.updateFields context bound) call⟩

/-- The names that only orders to the logger have: to add the stack or the exception at
hand, of which there is none here, and two marks that it sets and removes itself. -/
def orderNames : List String := ["exc_info", "stack_info", "_record", "_from_structlog"]

/-- The names and values of a record that are written. -/
def Record.written (r : Record) : List (String × Json) :=
  r.fields.filter fun f => !orderNames.contains f.1

/-- The names and values of a record as a document.  Level, time and name of the event win
over values of the same names. -/
def Record.document (r : Record) (time : String) : List (String × Json) :=
  Json.updateFields r.written
    [("event", .string r.event), ("level", .string r.level.name), ("timestamp", .string time)]

/-! ## Names that a logger refuses -/

/-- Why a logger takes no values: they have the name of something that it is given
already. -/
inductive Refusal where
  /-- by a logger that values are bound to -/
  | bound (name : String)
  /-- by a call for an event -/
  | called (level : Level) (name : String)
  /-- by the logger that the call is passed on to -/
  | passedOn (name : String)
  deriving DecidableEq, Repr, Inhabited

/-- The wording for a call to which a name is given twice. -/
def repeatedText (call name : String) : String :=
  call ++ "() got multiple values for argument '" ++ name ++ "'"

/-- The wording of a refusal. -/
def Refusal.message : Refusal → String
  | .bound name => repeatedText "BoundLoggerLazyProxy.bind" name
  | .called level name => repeatedText ("BoundLogger." ++ level.name) name
  | .passedOn name => repeatedText "BoundLogger._proxy_to_logger" name

/-- The names that cannot be bound. -/
def unboundNames : List String := ["self"]

/-- The names that a call for an event has itself. -/
def calledNames : List String := ["self", "event"]

/-- The names that a call has once it is passed on. -/
def passedOnNames : List String := ["method_name"]

/-- The first of the names of values that is one of some names. -/
def firstAmong (names : List String) (fields : List (String × Json)) : Option String :=
  (fields.map (·.1)).find? fun n => names.contains n

/-- The first refusal of the values bound to a logger and of those of a call. -/
def refusal? (level : Level) (bound call : List (String × Json)) : Option Refusal :=
  ((firstAmong unboundNames bound).map .bound).orElse fun _ =>
    ((firstAmong calledNames call).map (.called level)).orElse fun _ =>
      (firstAmong passedOnNames call).map .passedOn

end TezosNode.Log

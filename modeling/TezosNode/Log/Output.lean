import TezosNode.Log.Line

set_option autoImplicit false

/-!
# Log: where records go

The logger of the library has a list of handlers.  It starts with one that does
nothing, and an application may add handlers of its own.  `configure` installs a
handler that writes lines to a stream, in place of the one it installed before, and
sets the threshold that the level of a record has to reach.
-/

namespace TezosNode.Log

/-- The name of the library's logger. -/
def loggerName : String := "tezrpc"

/-- Whether a logger is the library's or one below it. -/
def isOwn (logger : String) : Bool :=
  logger == loggerName || (loggerName ++ ".").toList.isPrefixOf logger.toList

/-- What a logger passes records on to. -/
inductive Handler where
  /-- passes nothing on -/
  | null
  /-- a handler of the application, by its name -/
  | foreign (name : String)
  /-- writes lines to a stream -/
  | installed (stream : String) (format : Format)
  deriving DecidableEq, Repr, Inhabited

/-- Whether a handler has been installed by `configure`. -/
def Handler.isInstalled : Handler → Bool
  | .installed _ _ => true
  | _ => false

/-- The state of the library's logger. -/
structure Output where
  handlers : List Handler
  /-- the threshold; zero leaves it to the loggers above -/
  level : Int
  /-- whether records go on to the loggers above -/
  propagates : Bool
  deriving DecidableEq, Repr, Inhabited

namespace Output

/-- The logger before any configuration. -/
def initial : Output := ⟨[.null], 0, true⟩

/-- The threshold of the loggers above. -/
def inheritedLevel : Int := Level.warning.number

/-- The threshold in effect. -/
def threshold (o : Output) : Int := if o.level = 0 then inheritedLevel else o.level

/-- Installs a handler for a stream, in place of an earlier one. -/
def configure (o : Output) (level : Int) (stream : String) (format : Format) : Output :=
  ⟨o.handlers.filter (!·.isInstalled) ++ [.installed stream format], level, false⟩

/-- Whether records of a level are written. -/
def isEnabled (o : Output) (level : Level) : Bool := o.threshold ≤ level.number

/-- The texts that a record gives, each with its stream; the end of the line is not in
them. -/
def emit (o : Output) (time : String) (logger : String) (r : Record) :
    List (String × String) :=
  if isOwn logger && o.isEnabled r.level then
    o.handlers.filterMap fun
      | .installed stream format => (r.render? format time).map (stream, ·)
      | _ => none
  else []

end Output

end TezosNode.Log

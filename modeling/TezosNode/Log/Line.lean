import TezosNode.Json.Literal
import TezosNode.Json.Printer
import TezosNode.Log.Basic

set_option autoImplicit false

/-!
# Log: lines

A record is written as a line, either a JSON object with sorted names or text for a
person to read.

For a person to read, some values have places of their own: a value without a name
before the line, the names of loggers in brackets, and a stack and an exception below
the line.  If one of these two is no text, the record is not written at all.
-/

namespace TezosNode.Log

/-- How records are written. -/
inductive Format where
  | json
  | console
  deriving DecidableEq, Repr, Inhabited

/-- Whether a character of a string asks for quotes. -/
def needsQuotes (c : Char) : Bool := " \t=\r\n\"'".toList.contains c

/-- A value for a person to read. -/
def valueText : Json → String
  | .string s => if s.toList.any needsQuotes then Text.Quoted.quote s else s
  | v => v.shown

/-- A text with blanks after it up to a width. -/
def padRight (width : Nat) (s : String) : String :=
  s ++ String.ofList (List.replicate (width - s.length) ' ')

/-- The width of the column for the level. -/
def levelWidth : Nat := 9

/-- The width of the column for the event. -/
def eventWidth : Nat := 30

/-- A name and its value for a person to read. -/
def fieldText (f : String × Json) : String := f.1 ++ "=" ++ valueText f.2

/-- The names of loggers, which have columns of their own. -/
def loggerColumns : List String := ["logger", "logger_name"]

/-- The name of a stack. -/
def stackName : String := "stack"

/-- The name of an exception. -/
def exceptionName : String := "exception"

/-- All names with places of their own. -/
def placedNames : List String :=
  ["", "timestamp", "level", "event"] ++ loggerColumns ++ [stackName, exceptionName]

/-- The line of a record for a person to read: time, level, event and loggers in columns,
then the other values sorted by their names. -/
def Record.columns (r : Record) (time : String) : String :=
  let unnamed := r.written.filter fun f => f.1 == ""
  let head := [time, "[" ++ padRight levelWidth r.level.name ++ "]", padRight eventWidth r.event]
  let loggers := loggerColumns.filterMap fun n =>
    (Json.field? r.written n).map fun v => "[" ++ v.bare ++ "]"
  let others := Json.sortFields (r.written.filter fun f => !placedNames.contains f.1)
  let line := " ".intercalate
    (unnamed.map fieldText ++ head ++ loggers ++ others.map fieldText)
  String.ofList (Text.dropEndWhile (· == ' ') line.toList)

/-- The text of a name: none if the record lacks it, and no answer if it is no text. -/
def Record.text? (r : Record) (name : String) : Option (Option String) :=
  match Json.field? r.written name with
  | none => some none
  | some .null => some none
  | some (.string s) => some (some s)
  | some _ => none

/-- The line between a stack and an exception. -/
def separator : String := String.ofList (List.replicate 79 '=')

/-- What stands below the line of a record with a stack and an exception. -/
def below : (stack exception : Option String) → List String
  | none, none => []
  | some s, none => [s]
  | none, some e => [e]
  | some s, some e => [s, "", separator, "", e]

/-- A record for a person to read, if its stack and its exception are texts. -/
def Record.consoleText? (r : Record) (time : String) : Option String := do
  let stack ← r.text? stackName
  let exception ← r.text? exceptionName
  return "\n".intercalate (r.columns time :: below stack exception)

/-- A record as a JSON object. -/
def Record.jsonLine (r : Record) (time : String) : String :=
  (Json.sorted (.object (r.document time))).compress

/-- A record in a format, if it can be written. -/
def Record.render? (r : Record) (format : Format) (time : String) : Option String :=
  match format with
  | .json => some (r.jsonLine time)
  | .console => r.consoleText? time

end TezosNode.Log

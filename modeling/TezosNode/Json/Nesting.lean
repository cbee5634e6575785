set_option autoImplicit false

/-!
# JSON: nesting

A reader of documents calls itself for each array and each object, and there is room for so
many nested calls only.  `excess?` looks through the brackets of a text, of which those in
strings are none, for the first one that opens a part deeper than that.
-/

namespace TezosNode.Json

/-! ## Room -/

/-- What can be nested in a document. -/
inductive Part where
  | array
  | object
  deriving DecidableEq, Repr, Inhabited

/-- A part in messages. -/
def Part.name : Part → String
  | .array => "array"
  | .object => "object"

/-- How deep the parts of a document may be nested.  A thousand calls may be under way at
once; fifty of them are left to the callers of the reader, which is more than the client and
its commands take, so that a reader with fewer callers gets a little deeper than this. -/
def maxDepth : Nat := 950

/-! ## Brackets -/

/-- Where a look through the brackets of a text stands, with the room that is left. -/
inductive Look where
  | outside (room : Nat)
  | inString (room : Nat)
  /-- after a backslash in a string -/
  | escaped (room : Nat)
  deriving DecidableEq, Repr, Inhabited

/-- Opens a part, if there is room for it. -/
def Look.enter (part : Part) : (room : Nat) → Except Part Look
  | 0 => .error part
  | room + 1 => .ok (.outside room)

/-- Looks at the next character. -/
def Look.step : Look → Char → Except Part Look
  | .outside room, c =>
    if c = '"' then .ok (.inString room)
    else if c = '[' then enter .array room
    else if c = '\x7b' then enter .object room
    else if c = ']' ∨ c = '\x7d' then .ok (.outside (room + 1))
    else .ok (.outside room)
  | .inString room, c =>
    if c = '"' then .ok (.outside room)
    else if c = '\\' then .ok (.escaped room)
    else .ok (.inString room)
  | .escaped room, _ => .ok (.inString room)

/-- Looks through a text. -/
def Look.through (look : Look) (text : List Char) : Except Part Look := text.foldlM step look

/-- The first part of a text for which there is no room. -/
def excess? (room : Nat) (text : List Char) : Option Part :=
  match (Look.outside room).through text with
  | .error part => some part
  | .ok _ => none

end TezosNode.Json

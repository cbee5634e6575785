import TezosNode.Json.Basic
import TezosNode.Json.Nesting
import TezosNode.Number.Shortest

set_option autoImplicit false

/-!
# JSON: values in messages

Messages and log lines show a value in a notation of their own: words with
capitals, strings in the quotes of `Text.Quoted`, arrays in brackets and objects
in braces.

Not every value can be shown: an integer is written with `Numeral.maxDigits` digits at most,
and as in reading there is room for so many parts in each other only.  The values of documents
that have been read can all be shown.
-/

namespace TezosNode.Json

/-! ## The notation -/

mutual

/-- A value in a message. -/
def literal : Json → List Char
  | .null => "None".toList
  | .bool true => "True".toList
  | .bool false => "False".toList
  | .integer n => (toString n).toList
  | .double x => x.render .message
  | .string s => Text.Quoted.render s.toList
  | .array items => '[' :: literalItems items ++ [']']
  | .object fields => '\x7b' :: literalFields fields ++ ['\x7d']

/-- The elements of an array. -/
def literalItems : List Json → List Char
  | [] => []
  | [v] => literal v
  | v :: w :: rest => literal v ++ ',' :: ' ' :: literalItems (w :: rest)

/-- The fields of an object. -/
def literalFields : List (String × Json) → List Char
  | [] => []
  | [(n, v)] => Text.Quoted.render n.toList ++ ':' :: ' ' :: literal v
  | (n, v) :: f :: rest =>
    Text.Quoted.render n.toList ++ ':' :: ' ' :: literal v ++ ',' :: ' '
      :: literalFields (f :: rest)

end

/-- A value in a message, as a string. -/
def shown (v : Json) : String := String.ofList (literal v)

/-- A value in a message; a string stands as it is, without quotes. -/
def bare : Json → String
  | .string s => s
  | v => v.shown

/-! ## What cannot be shown -/

/-- Why a value cannot be shown. -/
inductive Obstacle where
  /-- an integer would have too many digits -/
  | longInteger
  /-- a part is nested deeper than there is room for -/
  | tooDeep
  deriving DecidableEq, Repr, Inhabited

/-- The wording of an obstacle. -/
def Obstacle.message : Obstacle → String
  | .longInteger => Numeral.Fault.unwritable.message []
  | .tooDeep => "maximum recursion depth exceeded while getting the repr of an object"

mutual

/-- The first obstacle in a value, if there is room for so many parts in each other. -/
def obstacle? (room : Nat) : Json → Option Obstacle
  | .null | .bool _ | .double _ | .string _ => none
  | .integer n => if n.natAbs < Nat.pow 10 Numeral.maxDigits then none else some .longInteger
  | .array items =>
    match room with
    | 0 => some .tooDeep
    | room + 1 => obstacleOfItems? room items
  | .object fields =>
    match room with
    | 0 => some .tooDeep
    | room + 1 => obstacleOfFields? room fields

/-- The first obstacle in the elements of an array. -/
def obstacleOfItems? (room : Nat) : List Json → Option Obstacle
  | [] => none
  | v :: rest => (obstacle? room v).or (obstacleOfItems? room rest)

/-- The first obstacle in the fields of an object. -/
def obstacleOfFields? (room : Nat) : List (String × Json) → Option Obstacle
  | [] => none
  | (_, v) :: rest => (obstacle? room v).or (obstacleOfFields? room rest)

end

end TezosNode.Json

import TezosNode.Json.Basic
import TezosNode.Number.Shortest
import TezosNode.Text.Hex

set_option autoImplicit false

/-!
# JSON: writing

Documents are written in printable ASCII: every other character of a string is
escaped, those beyond the basic plane as two surrogates.  The compact form puts a
blank after each comma and colon; the indented form sorts the fields of every
object and gives each part a line of its own.
-/

namespace TezosNode.Json

/-! ## Scalars -/

/-- An escape by code. -/
def unicodeEscape (u : Nat) : List Char := '\\' :: 'u' :: Text.hexDigits 4 u

/-- A character of a string. -/
def escapeChar (c : Char) : List Char :=
  if c = '"' then ['\\', '"']
  else if c = '\\' then ['\\', '\\']
  else if c = '\n' then ['\\', 'n']
  else if c = '\r' then ['\\', 'r']
  else if c = '\t' then ['\\', 't']
  else if c = '\x08' then ['\\', 'b']
  else if c = '\x0c' then ['\\', 'f']
  else if 0x20 ≤ c.toNat ∧ c.toNat ≤ 0x7E then [c]
  else if c.toNat < 0x10000 then unicodeEscape c.toNat
  else
    unicodeEscape (0xD800 + (c.toNat - 0x10000) / 0x400)
      ++ unicodeEscape (0xDC00 + (c.toNat - 0x10000) % 0x400)

/-- A string in quotes. -/
def stringText (s : String) : List Char := '"' :: s.toList.flatMap escapeChar ++ ['"']

/-- A value that has no parts. -/
def scalarText : Json → List Char
  | .null => "null".toList
  | .bool true => "true".toList
  | .bool false => "false".toList
  | .integer n => (toString n).toList
  | .double x => x.render .document
  | .string s => stringText s
  | .array _ | .object _ => []

/-! ## The compact form -/

mutual

/-- A value in the compact form. -/
def compact : Json → List Char
  | .array items => '[' :: compactItems items ++ [']']
  | .object fields => '\x7b' :: compactFields fields ++ ['\x7d']
  | v => scalarText v

/-- The elements of an array. -/
def compactItems : List Json → List Char
  | [] => []
  | [v] => compact v
  | v :: w :: rest => compact v ++ ',' :: ' ' :: compactItems (w :: rest)

/-- The fields of an object. -/
def compactFields : List (String × Json) → List Char
  | [] => []
  | [(n, v)] => stringText n ++ ':' :: ' ' :: compact v
  | (n, v) :: f :: rest =>
    stringText n ++ ':' :: ' ' :: compact v ++ ',' :: ' ' :: compactFields (f :: rest)

end

/-- A value in the compact form, as a string. -/
def compress (v : Json) : String := String.ofList (compact v)

/-! ## Sorted fields -/

/-- Fields in the order of their names, by code points. -/
def sortFields (fields : List (String × Json)) : List (String × Json) :=
  fields.mergeSort fun a b => !(b.1 < a.1)

mutual

/-- A value whose objects have their fields sorted, at every depth. -/
def sorted : Json → Json
  | .array items => .array (sortedItems items)
  | .object fields => .object (sortFields (sortedFields fields))
  | v => v

/-- The elements of an array, each sorted. -/
def sortedItems : List Json → List Json
  | [] => []
  | v :: rest => sorted v :: sortedItems rest

/-- The fields of an object in their order, each value sorted. -/
def sortedFields : List (String × Json) → List (String × Json)
  | [] => []
  | (n, v) :: rest => (n, sorted v) :: sortedFields rest

end

/-! ## The indented form -/

/-- A line break and the indentation of a depth, two blanks for each level. -/
def newline (depth : Nat) : List Char := '\n' :: List.replicate (2 * depth) ' '

mutual

/-- A value in the indented form, whose parts stand at a depth. -/
def indented (depth : Nat) : Json → List Char
  | .array [] => ['[', ']']
  | .array (v :: rest) =>
    '[' :: newline (depth + 1) ++ indentedItems (depth + 1) (v :: rest) ++ newline depth ++ [']']
  | .object [] => ['\x7b', '\x7d']
  | .object (f :: rest) =>
    '\x7b' :: newline (depth + 1) ++ indentedFields (depth + 1) (f :: rest) ++ newline depth
      ++ ['\x7d']
  | v => scalarText v

/-- The elements of an array, one on a line. -/
def indentedItems (depth : Nat) : List Json → List Char
  | [] => []
  | [v] => indented depth v
  | v :: w :: rest => indented depth v ++ ',' :: newline depth ++ indentedItems depth (w :: rest)

/-- The fields of an object, one on a line. -/
def indentedFields (depth : Nat) : List (String × Json) → List Char
  | [] => []
  | [(n, v)] => stringText n ++ ':' :: ' ' :: indented depth v
  | (n, v) :: f :: rest =>
    stringText n ++ ':' :: ' ' :: indented depth v ++ ',' :: newline depth
      ++ indentedFields depth (f :: rest)

end

/-- A value in the indented form with sorted fields. -/
def pretty (v : Json) : String := String.ofList (indented 0 (sorted v))

end TezosNode.Json

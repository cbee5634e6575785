import TezosNode.Schema.Catalogue

set_option autoImplicit false

/-!
# Schema: the folder of schemas

Schemas are the files of a folder and are found by paths that start there.  A path is
walked name by name: a point stays, two points lead to the folder around, and any other
name to what the folder holds under it.  Of the folders around only those on the way to
the schemas are known.
-/

namespace TezosNode.Schema

/-- What a path leads to. -/
inductive Place where
  /-- a known folder, by the names on the way to it -/
  | folder (way : List String)
  /-- a folder of which nothing is known -/
  | outside
  | file (s : Schema)
  deriving Repr, Inhabited

/-- Why a path leads to no schema. -/
inductive LookupFault where
  /-- the path has a zero character -/
  | embeddedZero
  /-- the path or a name in it is longer than a path or a name can be -/
  | tooLong
  | missing
  /-- the path goes on after a file -/
  | noFolder
  /-- the path ends at a folder -/
  | folder
  deriving DecidableEq, Repr, Inhabited

/-- The wording of a fault that has one. -/
def LookupFault.message? : LookupFault → Option String
  | .embeddedZero => some "embedded null byte"
  | _ => none

/-- The way to the folder of schemas. -/
def home : List String := ["tezrpc", "spec", "v1"]

/-- The folders that are known. -/
def folders : List (List String) := [[], ["tezrpc"], ["tezrpc", "rpc"], ["tezrpc", "spec"], home]

/-- The number of octets that a name can have. -/
def nameLimit : Nat := 255

/-- The number of octets that a path from the folder of schemas can have. -/
def pathLimit : Nat := 4000

/-- What a known folder holds under a name. -/
def entry (way : List String) (name : String) : Except LookupFault Place :=
  if folders.contains (way ++ [name]) then .ok (.folder (way ++ [name]))
  else
    match if way == home then catalogue.find? fun s => s.name == name else none with
    | some s => .ok (.file s)
    | none => .error .missing

/-- Follows a name of a path. -/
def Place.step (place : Place) (name : String) : Except LookupFault Place :=
  match place with
  | .file _ => .error .noFolder
  | .folder way =>
    if name == ".." then .ok (if way.isEmpty then .outside else .folder way.dropLast)
    else if nameLimit < name.utf8ByteSize then .error .tooLong
    else entry way name
  | .outside =>
    if name == ".." then .ok .outside
    else if nameLimit < name.utf8ByteSize then .error .tooLong
    else .error .missing

/-- The names of a path that lead anywhere. -/
def pathNames (path : String) : List String :=
  (path.splitOn "/").filter fun name => name != "" && name != "."

/-- Where a path starts: one that begins with a slash far outside. -/
def pathStart (path : String) : Place :=
  if path.toList.head? = some '/' then .outside else .folder home

/-- The schema that a path leads to, by the name of that path. -/
def find (path : String) : Except LookupFault Schema := do
  if path.toList.contains '\x00' then throw .embeddedZero
  let names := pathNames path
  if pathLimit < ("/".intercalate names).utf8ByteSize then throw .tooLong
  match ← names.foldlM Place.step (pathStart path) with
  | .file s => return { s with name := path }
  | _ => throw .folder

end TezosNode.Schema

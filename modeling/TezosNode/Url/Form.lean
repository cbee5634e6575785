import TezosNode.Text.CodePoint
import TezosNode.Url.Basic

set_option autoImplicit false

/-!
# URL: parameters

A query as a list of parameters, each a key and a value, in the encoding of forms:
parameters between `&`, a key and its value around the first `=`, a space as `+`, and
all but letters, digits and `_.-~` percent-encoded.

Written parameters stand together by key, in the order in which the keys first
appear; the values of one key keep their order.
-/

namespace TezosNode.Url

/-- A parameter: a key and a value. -/
abbrev Param : Type := String × String

/-! ## Reading -/

/-- A key or a value as text. -/
def decodeComponent (text : List Char) : String :=
  String.ofList (percentDecode (text.map fun c => if c = '+' then ' ' else c))

/-- A parameter from its text; without `=` the value is empty. -/
def decodeParam (text : List Char) : Param :=
  (decodeComponent (text.takeWhile (· != '=')),
    decodeComponent ((text.dropWhile (· != '=')).drop 1))

/-- Parameters in the order of their keys' first appearances. -/
def groupByKey {κ ν : Type} [BEq κ] (params : List (κ × ν)) : List (κ × ν) :=
  (params.map (·.1)).eraseDups.flatMap fun key => params.filter fun p => p.1 == key

/-- The parameters of a query, as they stand. -/
def decodeParams (query : List Char) : List Param :=
  ((query.splitOn '&').filter (!·.isEmpty)).map decodeParam

/-- The parameters of a URL, by key. -/
def params (u : Url) : List Param := groupByKey (decodeParams u.queryText)

/-! ## Writing -/

/-- Whether a form keeps a character. -/
def inForm (c : Char) : Bool := isAsciiAlnum c || c = '_' || c = '.' || c = '-' || c = '~'

/-- A key or a value in a form. -/
def encodeComponent (s : String) : List Char :=
  s.toList.flatMap fun c => if c = ' ' then ['+'] else if inForm c then [c] else percentChar c

/-- A parameter in a form. -/
def encodeParam (p : Param) : List Char := encodeComponent p.1 ++ '=' :: encodeComponent p.2

/-- Parameters as a query. -/
def encodeParams (params : List Param) : List Char := ['&'].intercalate (params.map encodeParam)

/-! ## Options -/

/-- A URL with parameters after those that it has.  Without any it stays as it is. -/
def attach (u : Url) (options : List Param) : Except Fault Url :=
  if options.isEmpty then .ok u
  else u.withQuery (encodeParams (groupByKey (u.params ++ options)))

/-! ## Options of code points -/

/-- A parameter whose key and value are texts of code points. -/
abbrev WideParam : Type := List Text.CodePoint × List Text.CodePoint

namespace WideParam

/-- A parameter in code points. -/
def ofParam (p : Param) : WideParam :=
  (Text.CodePoint.ofString p.1, Text.CodePoint.ofString p.2)

/-- The parameter of those code points that are characters. -/
def toParam (p : WideParam) : Param :=
  (Text.CodePoint.toString p.1, Text.CodePoint.toString p.2)

/-- What keeps a parameter from being written. -/
def encodeFault? (p : WideParam) : Option Text.EncodeFault :=
  (Text.encodeFault? p.1).or (Text.encodeFault? p.2)

end WideParam

/-- Why options are refused. -/
inductive AttachFault where
  | url (f : Fault)
  /-- an option that cannot be written -/
  | unencodable (f : Text.EncodeFault)
  deriving DecidableEq, Repr

/-- The wording of a fault. -/
def AttachFault.message : AttachFault → String
  | .url f => f.message
  | .unencodable f => f.message

/-- A URL with parameters of code points after those that it has.  They are written by key before
anything else is done with them. -/
def attachWide (u : Url) (options : List WideParam) : Except AttachFault Url :=
  let params := groupByKey (u.params.map WideParam.ofParam ++ options)
  match params.findSome? WideParam.encodeFault? with
  | some fault => .error (.unencodable fault)
  | none => (u.attach (options.map WideParam.toParam)).mapError .url

end TezosNode.Url

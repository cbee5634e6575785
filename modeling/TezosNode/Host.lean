set_option autoImplicit false

/-!
# Hosts

A node is given by its host, as a URL without path or as a bare name.  `normalize`
makes a URL of either: one slash at the end is dropped, and a host that names no
scheme of the web gets `http`.
-/

namespace TezosNode.Host

/-- Why a text is no host. -/
inductive Fault where
  | empty
  deriving DecidableEq, Repr, Inhabited

/-- The wording of a fault. -/
def Fault.message : Fault → String
  | .empty => "Host must not be empty"

/-- The beginning of a URL of the web without encryption. -/
def http : List Char := "http://".toList

/-- The beginning of a URL of the web with encryption. -/
def https : List Char := "https://".toList

/-- A text without one slash at its end. -/
def dropSlash (text : List Char) : List Char :=
  if text.getLast? = some '/' then text.dropLast else text

/-- A text with a scheme of the web in front, if it has none. -/
def withScheme (text : List Char) : List Char :=
  if http.isPrefixOf text || https.isPrefixOf text then text else http ++ text

/-- The URL of a host. -/
def normalize (host : String) : Except Fault String :=
  if host = "" then .error .empty
  else .ok (String.ofList (withScheme (dropSlash host.toList)))

end TezosNode.Host

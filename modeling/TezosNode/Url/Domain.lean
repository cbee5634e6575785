import TezosNode.Url.Label.Basic
import TezosNode.Url.Label.LowerCase

set_option autoImplicit false

/-!
# URL: domain names

A host that begins with `xn--`, as the form in ASCII of a label does, is a domain name:
labels between dots, with perhaps one dot at its end.  `check` decides whether it is made
of labels.

So is a host with characters beyond ASCII, and it is sent in the form that `encode?` gives it,
which has each label in ASCII.
-/

namespace TezosNode.Url.Domain

/-- Why a host is no domain name. -/
inductive Fault where
  | tooLong
  | label (f : Label.Fault)
  deriving DecidableEq, Repr, Inhabited

/-- The wording of a fault. -/
def Fault.message : Fault → String
  | .tooLong => "Domain too long"
  | .label f => f.message

/-- The greatest length of a domain name, the dot at its end included. -/
def maxLength : Nat := 254

/-- The greatest length of a label in ASCII. -/
def maxLabelLength : Nat := 63

/-- The labels of a domain name; a dot at its end adds none. -/
def labels (host : List Char) : List (List Char) :=
  let parts := host.splitOn '.'
  if parts.getLast? = some [] then parts.dropLast else parts

/-- Checks one label. -/
def checkLabel (text : List Char) : Except Fault Unit :=
  match Label.decode text with
  | .error f => .error (.label f)
  | .ok label =>
    match Label.check label with
    | .error f => .error (.label f)
    | .ok () => .ok ()

/-- Checks a host; one that does not begin with `xn--` is not looked at. -/
def check (host : List Char) : Except Fault Unit :=
  if !Label.encodedStart.isPrefixOf host then .ok ()
  else if maxLength < host.length then .error .tooLong
  else (labels host).forM checkLabel

/-! ## Names beyond ASCII -/

/-- A dot for each of the characters that separate labels as a dot does. -/
def plainDot (c : Char) : Char :=
  if c = '\u3002' || c = '\uff0e' || c = '\uff61' then '.' else c

/-- The form in ASCII of one label, if it is one; a label in ASCII is its own form. -/
def formOf? (text : List Char) : Option (List Char) :=
  if text.all fun c => c.toNat < 0x80 then
    match checkLabel text with
    | .ok () => some text
    | .error _ => none
  else
    match Label.check (text.map Char.toNat) with
    | .ok () => some (Label.encodedStart ++ Label.Punycode.encode (text.map Char.toNat))
    | .error _ => none

/-- The form in ASCII of one label, if it is not too long. -/
def encodeLabel? (text : List Char) : Option (List Char) :=
  (formOf? text).filter fun form => form.length ≤ maxLabelLength

/-- The form in ASCII of a host with characters beyond ASCII; none if it is no domain name. -/
def encode? (host : List Char) : Option (List Char) :=
  let name := (Label.lower host).map plainDot
  if maxLength < name.length then none
  else
    match (labels name).mapM encodeLabel? with
    | none => none
    | some forms =>
      let form := ['.'].intercalate forms
      if name.getLast? = some '.' then
        if maxLength < form.length + 1 then none else some (form ++ ['.'])
      else if maxLength - 1 < form.length then none
      else some form

end TezosNode.Url.Domain

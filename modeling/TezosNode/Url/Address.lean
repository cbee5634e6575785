import TezosNode.Text.Hex
import TezosNode.Url.Percent

set_option autoImplicit false

/-!
# URL: numeric addresses

Host names that are IP addresses.  A name made of four groups of digits between dots
must be an address of version 4, and a name in brackets one of version 6, whose last
two groups may be written as an address of version 4 and which may be followed by `%`
and a scope.
-/

namespace TezosNode.Url

/-! ## Version 4 -/

/-- Whether a text is one of the four numbers: up to 255, without leading zeros. -/
def isAddressByte (text : List Char) : Bool :=
  !text.isEmpty && text.all Char.isDigit && text.length ≤ 3
    && (text == ['0'] || text.head? != some '0')
    && text.foldl (fun n c => 10 * n + (c.toNat - 0x30)) 0 ≤ 255

/-- Whether a text is an address of version 4. -/
def isIpv4 (text : List Char) : Bool :=
  let parts := text.splitOn '.'
  parts.length == 4 && parts.all isAddressByte

/-- Whether a text is made of four groups of digits between dots.  Nothing but dots will do: names
such as `12345678` and `1,2,3,4` do not look like addresses. -/
def looksLikeIpv4 (text : List Char) : Bool :=
  let parts := text.splitOn '.'
  parts.length == 4 && parts.all fun part => !part.isEmpty && part.all Char.isDigit

/-! ## Version 6 -/

/-- Whether a text is one of the eight groups: one to four hexadecimal digits. -/
def isAddressGroup (text : List Char) : Bool :=
  !text.isEmpty && text.length ≤ 4 && text.all fun c => (Text.hexValue? c).isSome

/-- The groups on one side of the gap, where the side ends at the gap or at the end of
the text.  A side that is a single empty part has no groups. -/
def sideGroups (side : List (List Char)) : List (List Char) :=
  if side = [[]] then [] else side

/-- Whether parts between colons make an address: eight groups, or fewer with one gap
in place of the missing ones. -/
def groupsMakeIpv6 (parts : List (List Char)) : Bool :=
  let inner := (parts.drop 1).dropLast
  match (inner.filter List.isEmpty).length with
  | 0 => parts.length == 8 && parts.all isAddressGroup
  | 1 =>
    let gap := inner.findIdx List.isEmpty + 1
    let groups := sideGroups (parts.take gap) ++ sideGroups (parts.drop (gap + 1))
    groups.length ≤ 7 && groups.all isAddressGroup
  | _ => false

/-- The parts between the colons of an address, where an address of version 4 at the
end counts as two groups; none if that address is none. -/
def ipv6Parts? (text : List Char) : Option (List (List Char)) :=
  let parts := text.splitOn ':'
  let last := parts.getLast?.getD []
  if parts.length < 3 then none
  else if last.contains '.' then
    if isIpv4 last then some (parts.dropLast ++ [['0'], ['0']]) else none
  else some parts

/-- Whether a text is an address of version 6, perhaps with a scope. -/
def isIpv6 (text : List Char) : Bool :=
  let address := text.takeWhile (· != '%')
  let scopeFits :=
    match text.dropWhile (· != '%') with
    | [] => true
    | _ :: scope => !scope.isEmpty && !scope.contains '%'
  !text.contains '/' && scopeFits
    && (match ipv6Parts? address with
      | some parts => groupsMakeIpv6 parts
      | none => false)

end TezosNode.Url

import TezosNode.Text.Hex
import TezosNode.Text.Utf8

set_option autoImplicit false

/-!
# Text: encodings of a document

A document may come in UTF-8, UTF-16 or UTF-32.  A byte order mark names the
encoding; without one the zero octets among the first four do, since the first
character of a document is an ASCII one.  `decodeDocument` reads the octets in
the encoding found and names the first part that spells nothing.

A surrogate that stands alone spells no text.  It is let through as a
replacement character in every encoding.
-/

namespace TezosNode.Text

/-- The order of the octets of a unit. -/
inductive ByteOrder where
  | little
  | big
  deriving DecidableEq, Repr, Inhabited

/-- The encodings of a document. -/
inductive Encoding where
  | utf8
  | utf16 (order : ByteOrder)
  | utf32 (order : ByteOrder)
  deriving DecidableEq, Repr, Inhabited

/-- The name of an encoding in messages. -/
def Encoding.name : Encoding → String
  | .utf8 => "utf-8"
  | .utf16 .little => "utf-16-le"
  | .utf16 .big => "utf-16-be"
  | .utf32 .little => "utf-32-le"
  | .utf32 .big => "utf-32-be"

/-- Why octets cannot be read. -/
inductive DecodeProblem where
  /-- an ill-formed part of UTF-8 -/
  | illFormed (reason : Utf8.Reason)
  /-- the input ends inside a unit -/
  | truncated
  /-- a unit beyond the last code point -/
  | outOfRange
  deriving DecidableEq, Repr, Inhabited

/-- The first part of an input that spells nothing. -/
structure DecodeFault where
  encoding : Encoding
  problem : DecodeProblem
  start : Nat
  size : Nat
  first : UInt8
  deriving DecidableEq, Repr, Inhabited

/-! ## Finding the encoding -/

/-- The encoding that the zero octets at the start of a document show. -/
def Encoding.ofZeros : Bytes → Encoding
  | a :: b :: c :: d :: _ =>
    if a = 0 then if b = 0 then .utf32 .big else .utf16 .big
    else if b = 0 then if c = 0 ∧ d = 0 then .utf32 .little else .utf16 .little
    else .utf8
  | [a, b] =>
    if a = 0 then .utf16 .big
    else if b = 0 then .utf16 .little
    else .utf8
  | _ => .utf8

/-- The encoding of a document and the number of octets of its mark. -/
def Encoding.detect : Bytes → Encoding × Nat
  | 0x00 :: 0x00 :: 0xFE :: 0xFF :: _ => (.utf32 .big, 4)
  | 0xFF :: 0xFE :: 0x00 :: 0x00 :: _ => (.utf32 .little, 4)
  | 0xFE :: 0xFF :: _ => (.utf16 .big, 2)
  | 0xFF :: 0xFE :: _ => (.utf16 .little, 2)
  | 0xEF :: 0xBB :: 0xBF :: _ => (.utf8, 3)
  | bytes => (Encoding.ofZeros bytes, 0)

/-! ## Units of two and four octets -/

/-- Whether a unit is the first half of a surrogate pair. -/
def isHighSurrogate (u : Nat) : Bool := 0xD800 ≤ u && u ≤ 0xDBFF

/-- Whether a unit is the second half of a surrogate pair. -/
def isLowSurrogate (u : Nat) : Bool := 0xDC00 ≤ u && u ≤ 0xDFFF

/-- The scalar value of a surrogate pair. -/
def joinSurrogates (high low : Nat) : Nat :=
  0x10000 + (high - 0xD800) * 0x400 + (low - 0xDC00)

/-- The character of a code point; the replacement character stands for a surrogate, which is no
character. -/
def charOfUnit (u : Nat) : Char :=
  if isHighSurrogate u || isLowSurrogate u then '\uFFFD' else Char.ofNat u

/-- A unit of two octets. -/
def unit16 (order : ByteOrder) (a b : UInt8) : Nat :=
  match order with
  | .little => a.toNat + 0x100 * b.toNat
  | .big => 0x100 * a.toNat + b.toNat

/-- A unit of four octets. -/
def unit32 (order : ByteOrder) (a b c d : UInt8) : Nat :=
  match order with
  | .little => unit16 .little a b + 0x10000 * unit16 .little c d
  | .big => 0x10000 * unit16 .big a b + unit16 .big c d

/-- Reads units of two octets.  `text` is what has been read, latest first, and
`offset` octets stand before the next unit. -/
def readUnits16 (order : ByteOrder) (text : List Char) (offset : Nat) :
    Bytes → Except DecodeFault (List Char)
  | [] => .ok text.reverse
  | [a] => .error ⟨.utf16 order, .truncated, offset, 1, a⟩
  | a :: b :: rest =>
    let u := unit16 order a b
    match rest with
    | c :: d :: rest' =>
      let v := unit16 order c d
      if isHighSurrogate u && isLowSurrogate v then
        readUnits16 order (Char.ofNat (joinSurrogates u v) :: text) (offset + 4) rest'
      else readUnits16 order (charOfUnit u :: text) (offset + 2) (c :: d :: rest')
    | rest => readUnits16 order (charOfUnit u :: text) (offset + 2) rest

/-- Reads units of four octets, as `readUnits16` reads those of two. -/
def readUnits32 (order : ByteOrder) (text : List Char) (offset : Nat) :
    Bytes → Except DecodeFault (List Char)
  | [] => .ok text.reverse
  | a :: b :: c :: d :: rest =>
    let u := unit32 order a b c d
    if 0x10FFFF < u then .error ⟨.utf32 order, .outOfRange, offset, 4, a⟩
    else readUnits32 order (charOfUnit u :: text) (offset + 4) rest
  | a :: rest => .error ⟨.utf32 order, .truncated, offset, rest.length + 1, a⟩

/-! ## Documents -/

/-- Names a fault of UTF-8 by the octets it stands in. -/
def DecodeFault.ofUtf8 (bytes : Bytes) (fault : Utf8.Fault) : DecodeFault :=
  ⟨.utf8, .illFormed fault.reason, fault.start, fault.size, bytes.getD fault.start 0⟩

/-- Reads octets as UTF-8 text. -/
def decodeUtf8 (bytes : Bytes) : Except DecodeFault (List Char) :=
  (Utf8.decode false bytes).mapError (DecodeFault.ofUtf8 bytes)

/-- Reads a document in the encoding that it shows.  A place in UTF-8 is counted
from after the mark, a place in wider units from the first octet. -/
def decodeDocument (bytes : Bytes) : Except DecodeFault (List Char) :=
  let (encoding, mark) := Encoding.detect bytes
  let body := bytes.drop mark
  match encoding with
  | .utf8 => (Utf8.decode true body).mapError (DecodeFault.ofUtf8 body)
  | .utf16 order => readUnits16 order [] mark body
  | .utf32 order => readUnits32 order [] mark body

/-! ## Wording -/

/-- The wording of a problem. -/
def DecodeProblem.message : DecodeProblem → String
  | .illFormed reason => reason.message
  | .truncated => "truncated data"
  | .outOfRange => "code point not in range(0x110000)"

/-- The wording of a fault: one octet is shown, several are given by their places. -/
def DecodeFault.message (fault : DecodeFault) : String :=
  let part :=
    if fault.size = 1 then
      "byte 0x" ++ String.ofList (hexDigits 2 fault.first.toNat) ++ " in position "
        ++ toString fault.start
    else
      "bytes in position " ++ toString fault.start ++ "-"
        ++ toString (fault.start + fault.size - 1)
  "'" ++ fault.encoding.name ++ "' codec can't decode " ++ part ++ ": " ++ fault.problem.message

end TezosNode.Text

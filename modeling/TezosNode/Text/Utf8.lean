set_option autoImplicit false

/-!
# Text: UTF-8

Octets and the text they spell.  A sequence of octets is cut into segments, one
for each scalar value and one for each maximal ill-formed part, and the readers
differ only in what they make of a segment: the strict reader stops at the first
ill-formed one, the lossy reader puts a replacement character in its place.

The extent of an ill-formed part is the longest prefix of a well-formed sequence
that stands there, and one octet where no sequence begins.
-/

namespace TezosNode

/-- A sequence of octets, as a message body carries it. -/
abbrev Bytes : Type := List UInt8

namespace Text.Utf8

/-! ## Segments -/

/-- Why a part of the octets spells no scalar value. -/
inductive Reason where
  /-- no sequence begins with this octet -/
  | invalidStart
  /-- the sequence is broken off by an octet that cannot continue it -/
  | invalidContinuation
  /-- the input ends inside a sequence -/
  | unexpectedEnd
  deriving DecidableEq, Repr, Inhabited

/-- What stands at one place of the input. -/
inductive Segment where
  /-- a scalar value and the number of octets that spell it -/
  | scalar (c : Char) (size : Nat)
  /-- three octets that spell a surrogate, which no text may hold -/
  | surrogate
  /-- a maximal ill-formed part of the given number of octets -/
  | illFormed (reason : Reason) (size : Nat)
  deriving DecidableEq, Repr, Inhabited

/-- The number of octets of a segment. -/
def Segment.size : Segment → Nat
  | .scalar _ n => n
  | .surrogate => 3
  | .illFormed _ n => n

/-- What a first octet announces: its share of the scalar value, the number of
octets that follow, and the range of the next one. -/
structure Lead where
  bits : Nat
  owed : Nat
  low : Nat
  high : Nat
  deriving DecidableEq, Repr, Inhabited

/-- The sequences of more than one octet, by their first octet. -/
def lead? (b : Nat) : Option Lead :=
  if 0xC2 ≤ b ∧ b ≤ 0xDF then some ⟨b - 0xC0, 1, 0x80, 0xBF⟩
  else if b = 0xE0 then some ⟨0, 2, 0xA0, 0xBF⟩
  else if b = 0xED then some ⟨0xD, 2, 0x80, 0x9F⟩
  else if 0xE1 ≤ b ∧ b ≤ 0xEF then some ⟨b - 0xE0, 2, 0x80, 0xBF⟩
  else if b = 0xF0 then some ⟨0, 3, 0x90, 0xBF⟩
  else if 0xF1 ≤ b ∧ b ≤ 0xF3 then some ⟨b - 0xF0, 3, 0x80, 0xBF⟩
  else if b = 0xF4 then some ⟨4, 3, 0x80, 0x8F⟩
  else none

/-- Reads the octets that a sequence still owes.  `taken` octets have been read,
and the next one must lie in the given range. -/
def continuation (bits owed low high taken : Nat) : Bytes → Segment
  | [] => .illFormed .unexpectedEnd taken
  | b :: rest =>
    if low ≤ b.toNat ∧ b.toNat ≤ high then
      let bits := bits * 64 + (b.toNat - 0x80)
      match owed with
      | 0 | 1 => .scalar (Char.ofNat bits) (taken + 1)
      | owed + 2 => continuation bits (owed + 1) 0x80 0xBF (taken + 1) rest
    else .illFormed .invalidContinuation taken

/-- Whether the octets after a first octet `ED` make it a surrogate. -/
def spellsSurrogate : Bytes → Bool
  | b :: c :: _ => 0xA0 ≤ b.toNat && b.toNat ≤ 0xBF && 0x80 ≤ c.toNat && c.toNat ≤ 0xBF
  | _ => false

/-- The segment that begins with octet `b`, when `rest` follows. -/
def segmentAt (b : UInt8) (rest : Bytes) : Segment :=
  if b.toNat < 0x80 then .scalar (Char.ofNat b.toNat) 1
  else match lead? b.toNat with
    | none => .illFormed .invalidStart 1
    | some l =>
      if b.toNat = 0xED ∧ spellsSurrogate rest then .surrogate
      else continuation l.bits l.owed l.low l.high 1 rest

/-- The segments of the input after those in `found`, latest first, where the
next `skip` octets belong to a segment that has been read. -/
def segmentsFrom (found : List Segment) : (skip : Nat) → Bytes → List Segment
  | _, [] => found.reverse
  | skip + 1, _ :: rest => segmentsFrom found skip rest
  | 0, b :: rest =>
    let s := segmentAt b rest
    segmentsFrom (s :: found) (s.size - 1) rest

/-- The segments of the input. -/
def segments (bytes : Bytes) : List Segment := segmentsFrom [] 0 bytes

/-! ## Reading -/

/-- The first part of an input that is refused: where it starts and how many
octets it has. -/
structure Fault where
  reason : Reason
  start : Nat
  size : Nat
  deriving DecidableEq, Repr, Inhabited

/-- The fault of a segment at an offset, where `surrogates` says whether a
surrogate is let through. -/
def Segment.fault? (surrogates : Bool) (offset : Nat) : Segment → Option Fault
  | .scalar _ _ => none
  | .surrogate => if surrogates then none else some ⟨.invalidContinuation, offset, 1⟩
  | .illFormed reason n => some ⟨reason, offset, n⟩

/-- The first fault of the segments that begin at an offset. -/
def firstFault? (surrogates : Bool) (offset : Nat) : List Segment → Option Fault
  | [] => none
  | s :: rest =>
    match s.fault? surrogates offset with
    | some fault => some fault
    | none => firstFault? surrogates (offset + s.size) rest

/-- The character that a segment stands for; one replacement character for a
segment that has none. -/
def Segment.char : Segment → Char
  | .scalar c _ => c
  | .surrogate | .illFormed _ _ => '\uFFFD'

/-- Reads octets as UTF-8 and stops at the first ill-formed part.  With
`surrogates` a spelled surrogate is read as a replacement character. -/
def decode (surrogates : Bool) (bytes : Bytes) : Except Fault (List Char) :=
  let found := segments bytes
  match firstFault? surrogates 0 found with
  | some fault => .error fault
  | none => .ok (found.map Segment.char)

/-- The text of one segment when ill-formed parts are replaced.  No octet of a
spelled surrogate continues a sequence, so each is a part of its own. -/
def Segment.replaced : Segment → List Char
  | .scalar c _ => [c]
  | .surrogate => ['\uFFFD', '\uFFFD', '\uFFFD']
  | .illFormed _ _ => ['\uFFFD']

/-- Reads octets as UTF-8 with one replacement character for each maximal
ill-formed part. -/
def decodeLossy (bytes : Bytes) : List Char :=
  (segments bytes).flatMap Segment.replaced

/-! ## Writing -/

/-- The octets of a text. -/
def encode (text : List Char) : Bytes := text.flatMap String.utf8EncodeChar

/-! ## Wording -/

/-- The wording of a reason. -/
def Reason.message : Reason → String
  | .invalidStart => "invalid start byte"
  | .invalidContinuation => "invalid continuation byte"
  | .unexpectedEnd => "unexpected end of data"

end Text.Utf8

end TezosNode

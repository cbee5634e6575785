import TezosNode.Text.Normal
import TezosNode.Text.Quoted
import TezosNode.Url.Label.Direction
import TezosNode.Url.Label.Joining
import TezosNode.Url.Label.Punycode
import TezosNode.Url.Label.Script

set_option autoImplicit false

/-!
# Labels

The labels of a host name are what stands between its dots.  A label is a list of code
points, and one that begins with `xn--` stands for the label that the rest is the form in
ASCII of.

`check` decides whether code points make a label.  They are in the composed normal form,
do not begin or end with a hyphen or have two of them in the third and fourth place, do
not begin with a mark, are all permitted where they stand, and keep the rules for labels
that are written from right to left.
-/

namespace TezosNode.Url.Label

/-! ## Faults -/

/-- Why something is no label. -/
inductive Fault where
  | empty
  /-- nothing after `xn--` -/
  | noContent
  /-- a hyphen after `xn--` and what follows it -/
  | finalHyphen
  /-- after `xn--` something that is no form in ASCII -/
  | undecodable
  | unnormalized
  /-- hyphens in the third and fourth place -/
  | hyphenPair
  /-- a hyphen in the first or last place -/
  | outerHyphen
  /-- a mark in the first place -/
  | leadingMark
  | codePoint (code position : Nat) (label : List Nat)
  /-- a joiner that has nothing to join -/
  | joiner (code position : Nat) (label : List Nat)
  /-- a joiner after a code point that has no name -/
  | unnamedBesideJoiner (code position : Nat) (label : List Nat)
  /-- a code point that may not stand among those around it -/
  | context (code position : Nat) (label : List Nat)
  /-- a code point whose direction is not known -/
  | unknownDirection (position : Nat) (label : List Nat)
  /-- a first code point that gives the label no direction -/
  | noDirection (label : List Nat)
  | againstRightToLeft (position : Nat)
  | againstLeftToRight (position : Nat)
  /-- two kinds of numbers in a label from right to left -/
  | mixedNumbers
  /-- a last code point that gives the end of the label no direction -/
  | openEnd
  deriving DecidableEq, Repr, Inhabited

/-- The name of a code point: `U+` and at least four digits. -/
def codeName (code : Nat) : String :=
  let width := if code < 0x10000 then 4 else if code < 0x100000 then 5 else 6
  "U+" ++ String.ofList ((Text.hexDigits width code).map Char.toUpper)

/-- A label in quotes. -/
def shown (label : List Nat) : String := String.ofList (Text.Quoted.renderCodes label)

/-- A position in a label, which is counted from one. -/
def positionText (position : Nat) : String := "position " ++ toString position

/-- The wording of a fault.  The two faults around a joiner have the same. -/
def Fault.message : Fault → String
  | .empty => "Empty Label"
  | .noContent => "Malformed A-label, no Punycode eligible content found"
  | .finalHyphen => "A-label must not end with a hyphen"
  | .undecodable => "Invalid A-label"
  | .unnormalized => "Label must be in Normalization Form C"
  | .hyphenPair => "Label has disallowed hyphens in 3rd and 4th position"
  | .outerHyphen => "Label must not start or end with a hyphen"
  | .leadingMark => "Label begins with an illegal combining character"
  | .codePoint code position label =>
    "Codepoint " ++ codeName code ++ " at " ++ positionText position ++ " of " ++ shown label
      ++ " not allowed"
  | .joiner code position label
  | .unnamedBesideJoiner code position label =>
    "Unknown codepoint adjacent to joiner " ++ codeName code ++ " at " ++ positionText position
      ++ " in " ++ shown label
  | .context code position label =>
    "Codepoint " ++ codeName code ++ " not allowed at " ++ positionText position ++ " in "
      ++ shown label
  | .unknownDirection position label =>
    "Unknown directionality in label " ++ shown label ++ " at " ++ positionText position
  | .noDirection label =>
    "First codepoint in label " ++ shown label ++ " must be directionality L, R or AL"
  | .againstRightToLeft position =>
    "Invalid direction for codepoint at " ++ positionText position ++ " in a right-to-left label"
  | .againstLeftToRight position =>
    "Invalid direction for codepoint at " ++ positionText position ++ " in a left-to-right label"
  | .mixedNumbers => "Can not mix numeral types in a right-to-left label"
  | .openEnd => "Label ends with illegal codepoint directionality"

/-! ## Code points among others -/

/-- The ideographs of Tangut. -/
def tangutRanges : List (Nat × Nat) := [(0x17000, 0x187F7), (0x18D00, 0x18D08)]

/-- Whether a code point of a label has no name: Unicode 14 does not know it, or it is an
ideograph of Tangut. -/
def isUnnamed (code : Nat) : Bool :=
  !Text.isPrintableCode code && !isJoiner code || Text.inRanges tangutRanges code

/-- Whether a joiner may stand after the code points before it, latest first, and before
those after it: after a mark that takes away a vowel, and the one that keeps letters
apart also between letters that would join. -/
def fitsJoiner (before : List Nat) (code : Nat) (after : List Nat) : Bool :=
  before.head?.any (Text.combiningClass · == Text.viramaClass)
    || (code == 0x200C && joinsAcross before after)

/-- Whether a contextual code point may stand after the code points before it, latest
first, and before those after it. -/
def fitsContext (before : List Nat) (code : Nat) (after : List Nat) : Bool :=
  if isArabicDigit code then !(before ++ after).any isExtendedArabicDigit
  else if isExtendedArabicDigit code then !(before ++ after).any isArabicDigit
  else if code = 0xB7 then before.head? == some 0x6C && after.head? == some 0x6C
  else if code = 0x375 then after.head?.any isGreek
  else if code = 0x30FB then (before ++ after).any fun c => c != 0x30FB && isJapanese c
  else before.head?.any isHebrew

/-- Checks a code point after those before it, latest first, and before those after it. -/
def checkCode (before : List Nat) (code : Nat) (after : List Nat) : Except Fault Unit :=
  let position := before.length + 1
  let label := before.reverse ++ code :: after
  if isPermitted code then .ok ()
  else if isJoiner code then
    if before.head?.any fun c => Text.combiningClass c == 0 && isUnnamed c then
      .error (.unnamedBesideJoiner code position label)
    else if fitsJoiner before code after then .ok ()
    else .error (.joiner code position label)
  else if isContextual code then
    if fitsContext before code after then .ok () else .error (.context code position label)
  else .error (.codePoint code position label)

/-- Checks code points after those before them, latest first. -/
def checkCodesFrom (before : List Nat) : List Nat → Except Fault Unit
  | [] => .ok ()
  | code :: after => do
    checkCode before code after
    checkCodesFrom (code :: before) after

/-- Checks that each code point of a label may stand where it stands. -/
def checkCodes (label : List Nat) : Except Fault Unit := checkCodesFrom [] label

/-! ## Directions -/

/-- The directions of a label's code points. -/
def directions (label : List Nat) : Except Fault (List Direction) :=
  (label.zipIdx 1).mapM fun p =>
    match direction? p.1 with
    | some d => .ok d
    | none => .error (.unknownDirection p.2 label)

/-- Checks the directions of a label from right to left from a position on, where numbers
of one kind may have come before. -/
def checkRightToLeft (position : Nat) (numbers : Option Direction) :
    List Direction → Except Fault Unit
  | [] => .ok ()
  | d :: rest =>
    if d = .left then .error (.againstRightToLeft position)
    else if d.isNumber then
      if numbers.getD d = d then checkRightToLeft (position + 1) (some d) rest
      else .error .mixedNumbers
    else checkRightToLeft (position + 1) numbers rest

/-- Whether the last direction of a label from right to left, marks aside, may end it. -/
def endsFromRight (ds : List Direction) : Bool :=
  (ds.reverse.find? (· != .mark)).any fun d => d = .right || d.isNumber

/-- Checks the directions in a label.  One with anything that is written from right to left
begins with a letter from right to left, has none from left to right, has numbers of one
kind, and ends with a letter or number. -/
def checkDirections (label : List Nat) : Except Fault Unit := do
  let ds ← directions label
  if ds.any Direction.isFromRight then
    match ds.head? with
    | some .right =>
      checkRightToLeft 1 none ds
      if !endsFromRight ds then .error .openEnd
    | some .left => .error (.againstLeftToRight (ds.findIdx Direction.isFromRight + 1))
    | _ => .error (.noDirection label)

/-! ## Labels -/

/-- The hyphen. -/
def hyphen : Nat := 0x2D

/-- Checks that code points make a label. -/
def check (label : List Nat) : Except Fault Unit := do
  if label.isEmpty then .error .empty
  if !Text.isComposed label then .error .unnormalized
  if (label.drop 2).take 2 = [hyphen, hyphen] then .error .hyphenPair
  if label.head? = some hyphen ∨ label.getLast? = some hyphen then .error .outerHyphen
  if label.head?.any Text.isMark then .error .leadingMark
  checkCodes label
  checkDirections label

/-- What a label with a form in ASCII begins with. -/
def encodedStart : List Char := ['x', 'n', '-', '-']

/-- The code points that a text of ASCII stands for as a label. -/
def decode (text : List Char) : Except Fault (List Nat) :=
  let text := text.map Char.toLower
  if encodedStart.isPrefixOf text then
    let form := text.drop encodedStart.length
    if form.isEmpty then .error .noContent
    else if form.getLast? = some '-' then .error .finalHyphen
    else
      match Punycode.decode? form with
      | some label => .ok label
      | none => .error .undecodable
  else .ok (text.map Char.toNat)

end TezosNode.Url.Label

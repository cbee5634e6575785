import TezosNode.Json.Basic
import TezosNode.Json.Nesting
import TezosNode.Number.Shortest
import TezosNode.Text.Encoding

set_option autoImplicit false

/-!
# JSON: reading

Documents are read from left to right, and the first thing that cannot stand
where it stands is the fault.  A fault keeps the rest of the text from its place
on; its line and column follow from the length of that rest.

Beyond the standard, `NaN`, `Infinity` and `-Infinity` are values.  A number with
a point or an exponent is a double, every other one an integer, of which
`Numeral.maxDigits` digits are read at most.

`fuel` bounds the nesting and the number of parts; every part takes a character,
so twice the length of the text is always enough.  How deep a document may be nested is
another matter, and is found from the brackets of the text before it is read.
-/

namespace TezosNode.Json

/-! ## Faults -/

/-- What is wrong at a place of a document. -/
inductive Problem where
  | expectedValue
  | expectedComma
  | expectedColon
  | expectedName
  | unterminatedString
  | controlCharacter
  | invalidEscape
  | invalidUnicodeEscape
  | extraData
  | byteOrderMark
  deriving DecidableEq, Repr, Inhabited

/-- A fault while reading, with the text from its place on. -/
inductive Stop where
  | malformed (problem : Problem) (rest : List Char)
  | longInteger (digits : Nat) (rest : List Char)
  deriving DecidableEq, Repr, Inhabited

/-- The text from the place of a fault on. -/
def Stop.rest : Stop → List Char
  | .malformed _ rest => rest
  | .longInteger _ rest => rest

/-- What has been read and the text after it, or the fault. -/
abbrev Step (α : Type) : Type := Except Stop (α × List Char)

/-! ## Blanks and strings -/

/-- The blanks between the parts of a document. -/
def isBlank (c : Char) : Bool := c = ' ' || c = '\t' || c = '\n' || c = '\r'

/-- The text from its first character that is no blank. -/
def skipBlanks (text : List Char) : List Char := text.dropWhile isBlank

/-- The character of an escape of one letter. -/
def escapeLetter? : Char → Option Char
  | '"' => some '"'
  | '\\' => some '\\'
  | '/' => some '/'
  | 'b' => some '\x08'
  | 'f' => some '\x0c'
  | 'n' => some '\n'
  | 'r' => some '\r'
  | 't' => some '\t'
  | _ => none

/-- The second half of a surrogate pair, an escape of its own, where the text goes
on after it: its unit, none if another text follows. -/
def secondEscape? (text : List Char) : Except Stop (Option Nat) :=
  match text with
  | '\\' :: 'u' :: a :: b :: c :: d :: _ :: _ =>
    match Text.hexNumber? [a, b, c, d] with
    | some u => .ok (some u)
    | none => .error (.malformed .invalidUnicodeEscape (text.drop 1))
  | _ => .ok none

/-- The escape after a backslash: its character and the number of characters that
spell it.  `text` follows the backslash. -/
def escape (start text : List Char) : Except Stop (Char × Nat) :=
  match text with
  | [] => .error (.malformed .unterminatedString start)
  | 'u' :: a :: b :: c :: d :: next :: rest =>
    match Text.hexNumber? [a, b, c, d] with
    | none => .error (.malformed .invalidUnicodeEscape text)
    | some u =>
      if Text.isHighSurrogate u then
        match secondEscape? (next :: rest) with
        | .error stop => .error stop
        | .ok (some v) =>
          if Text.isLowSurrogate v then .ok (Char.ofNat (Text.joinSurrogates u v), 11)
          else .ok (Text.charOfUnit u, 5)
        | .ok none => .ok (Text.charOfUnit u, 5)
      else .ok (Text.charOfUnit u, 5)
  | 'u' :: _ => .error (.malformed .invalidUnicodeEscape text)
  | c :: _ =>
    match escapeLetter? c with
    | some c => .ok (c, 1)
    | none => .error (.malformed .invalidEscape ('\\' :: text))

/-- The rest of a string.  `start` is the text from its opening quote on, `read` are
its characters so far, latest first, and the next `skip` characters belong to an
escape that has been read. -/
def stringFrom (start : List Char) (read : List Char) : (skip : Nat) → List Char → Step String
  | _, [] => .error (.malformed .unterminatedString start)
  | skip + 1, _ :: rest => stringFrom start read skip rest
  | 0, c :: rest =>
    if c = '"' then .ok (String.ofList read.reverse, rest)
    else if c = '\\' then
      match escape start rest with
      | .error stop => .error stop
      | .ok (e, n) => stringFrom start (e :: read) n rest
    else if c.toNat < 0x20 then .error (.malformed .controlCharacter (c :: rest))
    else stringFrom start (c :: read) 0 rest

/-! ## Numbers -/

/-- The fraction of a number, if a point and a digit stand there: its digits and the
text after them. -/
def fraction? (text : List Char) : Option (List Char × List Char) :=
  match text with
  | '.' :: rest =>
    let digits := rest.takeWhile Numeral.isDigit
    if digits.isEmpty then none else some (digits, rest.dropWhile Numeral.isDigit)
  | _ => none

/-- The exponent of a number, if one stands there, and the text after it. -/
def exponent? (text : List Char) : Option (Int × List Char) :=
  match text with
  | c :: rest =>
    if c = 'e' ∨ c = 'E' then
      let (negative, rest) := Numeral.splitSign rest
      let digits := rest.takeWhile Numeral.isDigit
      if digits.isEmpty then none
      else
        let n : Int := Numeral.ofDigits digits
        some (if negative then -n else n, rest.dropWhile Numeral.isDigit)
    else none
  | [] => none

/-- The digits before the point: a lone zero or digits that begin with another. -/
def wholeDigits (text : List Char) : List Char :=
  match text with
  | '0' :: _ => ['0']
  | _ => text.takeWhile Numeral.isDigit

/-- Reads a number, which ends where its longest valid prefix ends. -/
def number (text : List Char) : Step Json :=
  let (negative, body) : Bool × List Char :=
    match text with
    | '-' :: rest => (true, rest)
    | _ => (false, text)
  let whole := wholeDigits body
  if whole.isEmpty then .error (.malformed .expectedValue text)
  else
    let rest := body.drop whole.length
    let fraction := fraction? rest
    let (places, rest) := fraction.getD ([], rest)
    let exponent := exponent? rest
    let (power, rest) := exponent.getD (0, rest)
    if fraction.isNone && exponent.isNone then
      if Numeral.maxDigits < whole.length then .error (.longInteger whole.length text)
      else
        let n : Int := Numeral.ofDigits whole
        .ok (.integer (if negative then -n else n), rest)
    else
      let digits := Numeral.ofDigits (whole ++ places)
      .ok (.double (.ofDecimal negative digits (power - places.length)), rest)

/-! ## Values -/

/-- Reads a word or a number. -/
def scalar (text : List Char) : Step Json :=
  match text with
  | 'n' :: 'u' :: 'l' :: 'l' :: rest => .ok (.null, rest)
  | 't' :: 'r' :: 'u' :: 'e' :: rest => .ok (.bool true, rest)
  | 'f' :: 'a' :: 'l' :: 's' :: 'e' :: rest => .ok (.bool false, rest)
  | 'N' :: 'a' :: 'N' :: rest => .ok (.double .nan, rest)
  | 'I' :: 'n' :: 'f' :: 'i' :: 'n' :: 'i' :: 't' :: 'y' :: rest =>
    .ok (.double (.infinite false), rest)
  | '-' :: 'I' :: 'n' :: 'f' :: 'i' :: 'n' :: 'i' :: 't' :: 'y' :: rest =>
    .ok (.double (.infinite true), rest)
  | _ => number text

/-- Reads the name of a field, the colon and the blanks around it. -/
def name (text : List Char) : Step String :=
  match text with
  | '"' :: rest =>
    match stringFrom text [] 0 rest with
    | .error stop => .error stop
    | .ok (s, rest) =>
      match skipBlanks rest with
      | ':' :: rest => .ok (s, skipBlanks rest)
      | rest => .error (.malformed .expectedColon rest)
  | _ => .error (.malformed .expectedName text)

mutual

/-- Reads a value, which begins at the first character. -/
def value : (fuel : Nat) → List Char → Step Json
  | 0, text => .error (.malformed .expectedValue text)
  | fuel + 1, text =>
    match text with
    | '"' :: rest =>
      match stringFrom text [] 0 rest with
      | .error stop => .error stop
      | .ok (s, rest) => .ok (.string s, rest)
    | '\x7b' :: rest =>
      match skipBlanks rest with
      | '\x7d' :: rest => .ok (.object [], rest)
      | rest => members fuel [] rest
    | '[' :: rest =>
      match skipBlanks rest with
      | ']' :: rest => .ok (.array [], rest)
      | rest => elements fuel [] rest
    | _ => scalar text

/-- Reads the rest of an array from the next element on, after those in `read`,
latest first. -/
def elements : (fuel : Nat) → (read : List Json) → List Char → Step Json
  | 0, _, text => .error (.malformed .expectedValue text)
  | fuel + 1, read, text =>
    match value fuel text with
    | .error stop => .error stop
    | .ok (v, rest) =>
      match skipBlanks rest with
      | ']' :: rest => .ok (.array (v :: read).reverse, rest)
      | ',' :: rest => elements fuel (v :: read) (skipBlanks rest)
      | rest => .error (.malformed .expectedComma rest)

/-- Reads the rest of an object from the next member on, after those in `read`,
latest first. -/
def members : (fuel : Nat) → (read : List (String × Json)) → List Char → Step Json
  | 0, _, text => .error (.malformed .expectedValue text)
  | fuel + 1, read, text =>
    match name text with
    | .error stop => .error stop
    | .ok (n, rest) =>
      match value fuel rest with
      | .error stop => .error stop
      | .ok (v, rest) =>
        match skipBlanks rest with
        | '\x7d' :: rest => .ok (.object (fieldsOf ((n, v) :: read).reverse), rest)
        | ',' :: rest => members fuel ((n, v) :: read) (skipBlanks rest)
        | rest => .error (.malformed .expectedComma rest)

end

/-- Reads a text that holds one value and blanks around it. -/
def readText (text : List Char) : Except Stop Json :=
  match value (2 * text.length + 2) (skipBlanks text) with
  | .error stop => .error stop
  | .ok (v, rest) =>
    match skipBlanks rest with
    | [] => .ok v
    | rest => .error (.malformed .extraData rest)

/-! ## Documents -/

/-- Why a document cannot be read. -/
inductive Fault where
  /-- the octets are no text -/
  | undecodable (fault : Text.DecodeFault)
  /-- the text is no document; the place is given by offset, line and column -/
  | malformed (problem : Problem) (offset line column : Nat)
  /-- an integer with this many digits -/
  | longInteger (digits : Nat)
  /-- a part that is nested deeper than there is room for -/
  | tooDeep (part : Part)
  deriving DecidableEq, Repr, Inhabited

/-- The place of a fault in a text: the part before it ends with the line it is on. -/
def Stop.toFault (text : List Char) : Stop → Fault
  | .longInteger digits _ => .longInteger digits
  | .malformed problem rest =>
    let offset := text.length - rest.length
    let before := text.take offset
    .malformed problem offset (before.count '\n' + 1)
      ((before.reverse.takeWhile (· != '\n')).length + 1)

/-- Reads a document from its text, however deep its parts are nested. -/
def parse (text : List Char) : Except Fault Json :=
  (readText text).mapError (Stop.toFault text)

/-- What is read of a text: all of a document, and otherwise what stands before the fault. -/
def readPart (text : List Char) : List Char :=
  match readText text with
  | .ok _ => text
  | .error stop => text.take (text.length - stop.rest.length)

/-- Reads a document from its text if there is room for the parts that are met on the way. -/
def parseWithin (room : Nat) (text : List Char) : Except Fault Json :=
  match excess? room (readPart text) with
  | some part => .error (.tooDeep part)
  | none => parse text

/-- Reads a document that has been handed over as text, which may not begin with a
byte order mark, however deep its parts are nested. -/
def parseString (s : String) : Except Fault Json :=
  match s.toList with
  | '\uFEFF' :: _ => .error (.malformed .byteOrderMark 0 1 1)
  | text => parse text

/-- Reads a document from its octets. -/
def decode (bytes : Bytes) : Except Fault Json :=
  match Text.decodeDocument bytes with
  | .error fault => .error (.undecodable fault)
  | .ok text => parseWithin maxDepth text

/-- The part of a document for which there is no room, if reading it gets that deep. -/
def tooDeep? (bytes : Bytes) : Option Part :=
  match decode bytes with
  | .error (.tooDeep part) => some part
  | _ => none

/-! ## Wording -/

/-- The wording of a problem. -/
def Problem.message : Problem → String
  | .expectedValue => "Expecting value"
  | .expectedComma => "Expecting ',' delimiter"
  | .expectedColon => "Expecting ':' delimiter"
  | .expectedName => "Expecting property name enclosed in double quotes"
  | .unterminatedString => "Unterminated string starting at"
  | .controlCharacter => "Invalid control character at"
  | .invalidEscape => "Invalid \\escape"
  | .invalidUnicodeEscape => "Invalid \\uXXXX escape"
  | .extraData => "Extra data"
  | .byteOrderMark => "Unexpected UTF-8 BOM (decode using utf-8-sig)"

/-- The wording of a fault. -/
def Fault.message : Fault → String
  | .undecodable fault => fault.message
  | .malformed problem offset line column =>
    problem.message ++ ": line " ++ toString line ++ " column " ++ toString column
      ++ " (char " ++ toString offset ++ ")"
  | .longInteger digits => (Numeral.Fault.tooLong digits).message []
  | .tooDeep part =>
    "maximum recursion depth exceeded while decoding a JSON " ++ part.name
      ++ " from a unicode string"

end TezosNode.Json

set_option autoImplicit false

/-!
# Text: control sequences

A terminal takes a text that begins with an escape character and a bracket for an
order, such as that to change the colour.  Text that is not for a terminal goes without
these sequences: the escape, a bracket, parameters, intermediate characters, and the
character that ends it, each from a range of ASCII of its own.
-/

namespace TezosNode.Text

/-- The escape character, which begins every control sequence. -/
def escapeCharacter : Char := '\x1b'

/-- Whether a character is a parameter of a sequence: a digit or one of `:;<=>?`. -/
def isSequenceParameter (c : Char) : Bool := '0' ≤ c && c ≤ '?'

/-- Whether a character may stand between the parameters and the end of a sequence: a
space or one of the marks before the digits. -/
def isSequenceIntermediate (c : Char) : Bool := ' ' ≤ c && c ≤ '/'

/-- Whether a character ends a sequence: a letter or one of the marks around letters. -/
def isSequenceEnd (c : Char) : Bool := '@' ≤ c && c ≤ '~'

/-- What remains of a part of a text that follows an escape character: the part after
the control sequence, or the part and its escape character if there is no sequence. -/
def afterEscape (part : List Char) : List Char :=
  match part with
  | '[' :: rest =>
    match (rest.dropWhile isSequenceParameter).dropWhile isSequenceIntermediate with
    | c :: tail => if isSequenceEnd c then tail else escapeCharacter :: part
    | [] => escapeCharacter :: part
  | _ => escapeCharacter :: part

/-- A text without its control sequences. -/
def dropControlSequences (text : List Char) : List Char :=
  match text.splitOn escapeCharacter with
  | [] => []
  | first :: parts => first ++ parts.flatMap afterEscape

end TezosNode.Text

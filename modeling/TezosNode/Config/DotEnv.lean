import TezosNode.Config.Environment
import TezosNode.Text.Blank
import TezosNode.Text.CaseFold
import TezosNode.Text.Encoding

set_option autoImplicit false

/-!
# Configuration: files of variables

A file assigns values to variables, one in a line: an optional word `export`, a name,
`=` and a value.  A value may stand in quotes, which may span lines, and a comment may
follow it.  A line of another form is passed over.

In every value `${NAME}` and `${NAME:-default}` stand for the value of a variable: that
of the environment, else the one that the file assigned before, else the default.

One variable of the environment keeps files from being read at all.
-/

namespace TezosNode.DotEnv

open Text

/-- An assignment; a name without `=` has no value. -/
structure Binding where
  name : String
  value : Option String
  deriving DecidableEq, Repr, Inhabited

/-- What has been read and the text after it; for a line of another form the text
from the place on where its form ends. -/
abbrev Step (α : Type) : Type := Except (List Char) (α × List Char)

/-! ## Parts of a line -/

/-- Whether a character is a blank inside a line. -/
def isInlineBlank (c : Char) : Bool := isBlank c && c != '\n' && c != '\r'

/-- A text without the word `export` and the blanks after it, if it has both. -/
def dropExport (text : List Char) : List Char :=
  let rest := text.drop 6
  if "export".toList.isPrefixOf text && (rest.takeWhile isInlineBlank) != [] then
    rest.dropWhile isInlineBlank
  else text

/-- Whether a name without quotes may have a character. -/
def inName (c : Char) : Bool := c != '=' && c != '#' && !isBlank c

/-- Reads a name, with or without single quotes; a comment has none. -/
def name (text : List Char) : Step (Option String) :=
  match text with
  | '#' :: _ => .ok (none, text)
  | '\'' :: rest =>
    let found := rest.takeWhile (· != '\'')
    match rest.drop found.length with
    | _ :: rest => if found.isEmpty then .error text else .ok (some (String.ofList found), rest)
    | [] => .error text
  | _ =>
    let found := text.takeWhile inName
    if found.isEmpty then .error text
    else .ok (some (String.ofList found), text.drop found.length)

/-- The length of a quoted text with `n` characters before the ones given, if it has a
closing quote.  A backslash takes the next character with it, which then closes nothing. -/
def quotedLength? (quote : Char) (n : Nat) : List Char → Option Nat
  | [] => none
  | [c] => if c = quote then some n else none
  | c :: d :: rest =>
    if c = quote then some n
    else if c = '\\' then quotedLength? quote (n + 2) rest
    else quotedLength? quote (n + 1) (d :: rest)

/-- The character of an escape between single quotes. -/
def singleEscape? : Char → Option Char
  | '\\' => some '\\'
  | '\'' => some '\''
  | _ => none

/-- The character of an escape between double quotes. -/
def doubleEscape? : Char → Option Char
  | '\\' => some '\\'
  | '\'' => some '\''
  | '"' => some '"'
  | 'a' => some '\x07'
  | 'b' => some '\x08'
  | 'f' => some '\x0c'
  | 'n' => some '\n'
  | 'r' => some '\r'
  | 't' => some '\t'
  | 'v' => some '\x0b'
  | _ => none

/-- A text with its escapes in place; other backslashes stay. -/
def unescape (escape? : Char → Option Char) : List Char → List Char
  | [] => []
  | [c] => [c]
  | c :: d :: rest =>
    if c = '\\' then
      match escape? d with
      | some e => e :: unescape escape? rest
      | none => c :: unescape escape? (d :: rest)
    else c :: unescape escape? (d :: rest)

/-- Reads a value in quotes, after the opening one. -/
def quoted (quote : Char) (escape? : Char → Option Char) (text : List Char) : Step String :=
  match quotedLength? quote 0 text with
  | some n => .ok (String.ofList (unescape escape? (text.take n)), text.drop (n + 1))
  | none => .error text

/-- A line up to a number sign after a blank; `previous` stands before the line. -/
def uncommented (previous : Char) : List Char → List Char
  | [] => []
  | c :: rest => if c = '#' ∧ isBlank previous then [] else c :: uncommented c rest

/-- Reads the value after `=`. -/
def value (text : List Char) : Step String :=
  match text.dropWhile isInlineBlank with
  | '\'' :: rest => quoted '\'' singleEscape? rest
  | '"' :: rest => quoted '"' doubleEscape? rest
  | _ =>
    let line := text.takeWhile (· != '\n')
    .ok (String.ofList (strip isBlank (uncommented '=' line)), text.drop line.length)

/-- Reads what may stand after a value: blanks, a comment and the end of the line. -/
def lineEnd (text : List Char) : Except (List Char) (List Char) :=
  match text.dropWhile isInlineBlank with
  | [] => .ok []
  | '\n' :: rest => .ok rest
  | '#' :: rest => .ok ((rest.dropWhile (· != '\n')).drop 1)
  | _ => .error text

/-- Reads the name and the value of a line. -/
def assignment (text : List Char) : Except (List Char) (Option Binding × List Char) := do
  let (found, rest) ← name text
  match rest.dropWhile isInlineBlank with
  | '=' :: rest =>
    let (v, rest) ← value rest
    let rest ← lineEnd rest
    return (found.map (⟨·, some v⟩), rest)
  | rest =>
    let rest ← lineEnd rest
    return (found.map (⟨·, none⟩), rest)

/-! ## Files -/

/-- Reads a line that may have blank lines before it. -/
def line (text : List Char) : Option Binding × List Char :=
  match text.dropWhile isBlank with
  | [] => (none, [])
  | text =>
    match assignment (dropExport text) with
    | .ok result => result
    | .error rest => (none, (rest.dropWhile (· != '\n')).drop 1)

/-- The assignments of a text after those in `found`, latest first.  Every line takes
a character, so the length of the text bounds their number. -/
def bindingsFrom (found : List Binding) : (fuel : Nat) → List Char → List Binding
  | 0, _ => found.reverse
  | fuel + 1, text =>
    if text.isEmpty then found.reverse
    else
      match line text with
      | (some b, rest) => bindingsFrom (b :: found) fuel rest
      | (none, rest) => bindingsFrom found fuel rest

/-- The assignments of a text. -/
def bindings (text : List Char) : List Binding := bindingsFrom [] text.length text

/-- A text with one line feed for each end of a line. -/
def unifyNewlines : List Char → List Char
  | [] => []
  | [c] => [if c = '\r' then '\n' else c]
  | c :: d :: rest =>
    if c = '\r' then
      if d = '\n' then '\n' :: unifyNewlines rest else '\n' :: unifyNewlines (d :: rest)
    else c :: unifyNewlines (d :: rest)

/-- A text without a byte order mark at its start. -/
def dropMark : List Char → List Char
  | '\uFEFF' :: rest => rest
  | text => text

/-- Reads the assignments of a file. -/
def decode (bytes : Bytes) : Except DecodeFault (List Binding) :=
  (decodeUtf8 bytes).map fun text => bindings (dropMark (unifyNewlines text))

/-! ## Values of other variables -/

/-- A variable in a value. -/
structure Reference where
  name : String
  default : Option String
  /-- the number of characters that stand for it, after the dollar sign -/
  size : Nat
  deriving DecidableEq, Repr, Inhabited

/-- Reads a variable after its dollar sign. -/
def reference? : List Char → Option Reference
  | '\x7b' :: body =>
    let name := body.takeWhile fun c => c != '\x7d' && c != ':'
    match body.drop name.length with
    | ':' :: '-' :: rest =>
      let default := rest.takeWhile (· != '\x7d')
      let size := name.length + default.length + 4
      if (rest.drop default.length).isEmpty then none
      else some ⟨String.ofList name, some (String.ofList default), size⟩
    | '\x7d' :: _ => some ⟨String.ofList name, none, name.length + 2⟩
    | _ => none
  | _ => none

/-- A value with its variables replaced.  `skip` characters belong to a variable that
has been replaced. -/
def expandFrom (resolve : String → Option String → String) :
    (skip : Nat) → List Char → List Char
  | _, [] => []
  | skip + 1, _ :: rest => expandFrom resolve skip rest
  | 0, c :: rest =>
    match if c = '$' then reference? rest else none with
    | some r => (resolve r.name r.default).toList ++ expandFrom resolve r.size rest
    | none => c :: expandFrom resolve 0 rest

/-- The value that a variable stands for.  One that the file names without a value is
empty, and takes no default. -/
def resolve (env : Environment) (assigned : List (String × Option String)) (name : String)
    (default : Option String) : String :=
  match env.get? name with
  | some v => v
  | none =>
    match assigned.find? fun a => a.1 == name with
    | some a => a.2.getD ""
    | none => default.getD ""

/-- Assignments with one more, in the place of an earlier one of the same name. -/
def assign (assigned : List (String × Option String)) (name : String) (v : Option String) :
    List (String × Option String) :=
  if assigned.any fun a => a.1 == name then
    assigned.map fun a => if a.1 == name then (name, v) else a
  else assigned ++ [(name, v)]

/-- The values that assignments give in an environment, with variables replaced. -/
def assignedValues (env : Environment) (found : List Binding) : List (String × Option String) :=
  found.foldl (fun assigned b =>
    assign assigned b.name
      (b.value.map fun v => String.ofList (expandFrom (resolve env assigned) 0 v.toList))) []

/-- The variable that keeps files from being read. -/
def disablingVariable : String := "PYTHON_DOTENV_DISABLED"

/-- The values of that variable, in any case, that do so. -/
def disablingWords : List String := ["1", "true", "t", "yes", "y"]

/-- Whether an environment keeps files from being read. -/
def isDisabled (env : Environment) : Bool :=
  (env.get? disablingVariable).any fun word => disablingWords.contains (foldCase word)

/-- Sets the variables of a file that an environment lacks. -/
def load (env : Environment) (found : List Binding) :
    Environment × Except Environment.Fault Unit :=
  env.setDefaults (assignedValues env found)

end TezosNode.DotEnv

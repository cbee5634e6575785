import TezosNode.Cli.Switch

set_option autoImplicit false

/-!
# Command line: pages

What the program says about itself: its version, and for itself and each command a line
on usage and a page of help.  A page lists terms in one column and what they mean in
another, whose place follows from the longest term up to a limit; a term beyond the limit
has a line to itself.
-/

namespace TezosNode.Cli

/-- The name of the program. -/
def programName : String := "tezrpc"

/-- The version of the program. -/
def programVersion : String := "1.0.0"

/-- The answer to the question for the version. -/
def versionText : String := programName ++ ", version " ++ programVersion ++ "\n"

/-! ## Arguments -/

/-- The arguments of commands. -/
inductive Argument where
  | address
  | method
  | path
  deriving DecidableEq, Repr, Inhabited

/-- The methods that a call may name. -/
def methodWords : List String := ["get", "post", "delete"]

/-- The levels that a threshold may name. -/
def levelWords : List String := ["debug", "info", "warning", "error"]

/-- An argument in usage lines and messages. -/
def Argument.label : Argument → String
  | .address => "ADDRESS"
  | .method => "\x7b" ++ "|".intercalate methodWords ++ "\x7d"
  | .path => "PATH"

/-- The arguments of a command, all of which are needed. -/
def Command.arguments : Command → List Argument
  | .head | .constants => []
  | .balance => [.address]
  | .call => [.method, .path]

/-! ## Usage -/

/-- How a scope is called from the command line. -/
def Scope.path : Scope → String
  | .program => programName
  | .command c => programName ++ " " ++ c.name

/-- What follows the name of a scope on the command line. -/
def Scope.parts : Scope → List String
  | .program => ["[OPTIONS]", "COMMAND", "[ARGS]..."]
  | .command c => "[OPTIONS]" :: c.arguments.map Argument.label

/-- The line on the usage of a scope. -/
def Scope.usageLine (s : Scope) : String :=
  "Usage: " ++ " ".intercalate (s.path :: s.parts) ++ "\n"

/-- What precedes a message on wrong usage. -/
def Scope.usageHint (s : Scope) : String :=
  s.usageLine ++ "Try '" ++ s.path ++ " " ++ Switch.help.long ++ "' for help.\n\n"

/-! ## Help -/

/-- A term of a help page and the lines of its meaning. -/
structure Entry where
  term : String
  meaning : List String
  deriving DecidableEq, Repr, Inhabited

/-- The entry of an option. -/
def Switch.entry : Switch → Entry
  | .version => ⟨"--version", ["Show the version and exit."]⟩
  | .host => ⟨"--host TEXT", ["Tezos node URL (default:", "http://localhost:8732)"]⟩
  | .logLevel =>
    ⟨"--log-level [" ++ "|".intercalate levelWords ++ "]", ["[default: WARNING]"]⟩
  | .logJson => ⟨"--log-json", ["Emit JSON log lines"]⟩
  | .block => ⟨"--block TEXT", ["Block hash or alias  [default: head]"]⟩
  | .data => ⟨"-d, --data TEXT", ["Request body (POST only)"]⟩
  | .param => ⟨"-p, --param TEXT", ["Query parameter key=value"]⟩
  | .help => ⟨"--help", ["Show this message and exit."]⟩

/-- What a command does. -/
def Command.summary : Command → String
  | .head => "Show the current chain head."
  | .constants => "Bootstrap against the node and print its network constants."
  | .balance => "Show the balance of ADDRESS."
  | .call => "Issue a raw RPC call and print the response body."

/-- What a scope is for. -/
def Scope.summary : Scope → String
  | .program => "tezrpc: talk to a Tezos node over RPC."
  | .command c => c.summary

/-- The entry of a command. -/
def Command.entry (c : Command) : Entry := ⟨c.name, [c.summary]⟩

/-- The blanks before the terms of a list, and between its columns. -/
def gap : Nat := 2

/-- The length beyond which a term has a line to itself. -/
def termLimit : Nat := 30

/-- The width of the column of terms. -/
def termWidth (entries : List Entry) : Nat :=
  min termLimit (entries.foldl (fun n e => max n e.term.length) 0)

/-- Blanks. -/
def blanks (n : Nat) : String := String.ofList (List.replicate n ' ')

/-- An entry of a list whose terms have a column of the given width. -/
def Entry.text (width : Nat) (e : Entry) : String :=
  let indent := blanks (gap + width + gap)
  let separator :=
    if e.term.length ≤ width then blanks (width - e.term.length + gap) else "\n" ++ indent
  blanks gap ++ e.term ++ separator ++ ("\n" ++ indent).intercalate e.meaning ++ "\n"

/-- A list under a heading. -/
def listText (heading : String) (entries : List Entry) : String :=
  let width := termWidth entries
  "\n" ++ heading ++ ":\n" ++ String.join (entries.map (Entry.text width))

/-- The help page of a scope. -/
def Scope.helpText (s : Scope) : String :=
  let options := listText "Options" (s.switches.map Switch.entry)
  let page := s.usageLine ++ "\n" ++ blanks gap ++ s.summary ++ "\n" ++ options
  match s with
  | .program => page ++ listText "Commands" (commands.map Command.entry)
  | .command _ => page

end TezosNode.Cli

set_option autoImplicit false

/-!
# Command line: commands and options

The commands of the program, the options that the program and each command know, and how
options are told from other arguments.

An argument that begins with a dash spells an option, unless it is a lone dash or comes
after `--`.  A value is given after `=`, directly after a letter, or by the next
argument, whatever that looks like.  Options of the program stand before its command;
those of a command stand anywhere among its arguments.
-/

namespace TezosNode.Cli

/-! ## Commands -/

/-- The commands. -/
inductive Command where
  | head
  | constants
  | balance
  | call
  deriving DecidableEq, Repr, Inhabited

/-- The name of a command. -/
def Command.name : Command → String
  | .head => "head"
  | .constants => "constants"
  | .balance => "balance"
  | .call => "call"

/-- All commands, sorted by name. -/
def commands : List Command := [.balance, .call, .constants, .head]

/-- The command of a name. -/
def Command.ofName? (name : String) : Option Command := commands.find? fun c => c.name == name

/-- What options belong to. -/
inductive Scope where
  | program
  | command (c : Command)
  deriving DecidableEq, Repr, Inhabited

/-! ## Options -/

/-- The options of the program and its commands. -/
inductive Switch where
  | version
  | host
  | logLevel
  | logJson
  | block
  | data
  | param
  | help
  deriving DecidableEq, Repr, Inhabited

namespace Switch

/-- The long spelling of an option. -/
def long : Switch → String
  | .version => "--version"
  | .host => "--host"
  | .logLevel => "--log-level"
  | .logJson => "--log-json"
  | .block => "--block"
  | .data => "--data"
  | .param => "--param"
  | .help => "--help"

/-- The letter that spells an option after a single dash; it is always followed by a
value. -/
def letter? : Switch → Option Char
  | .data => some 'd'
  | .param => some 'p'
  | _ => none

/-- Whether an option takes a value. -/
def takesValue : Switch → Bool
  | .version | .logJson | .help => false
  | .host | .logLevel | .block | .data | .param => true

end Switch

/-- The options of a scope, in the order of its help page. -/
def Scope.switches : Scope → List Switch
  | .program => [.version, .host, .logLevel, .logJson, .help]
  | .command .head | .command .constants => [.help]
  | .command .balance => [.block, .help]
  | .command .call => [.data, .param, .help]

/-- Whether options may stand after other arguments. -/
def Scope.isInterspersed : Scope → Bool
  | .program => false
  | .command _ => true

/-! ## Reading arguments -/

/-- Why an argument spells no option of the scope. -/
inductive SwitchFault where
  | unknown (spelling : String)
  | withoutValue (spelling : String)
  | withValue (spelling : String)
  deriving DecidableEq, Repr, Inhabited

/-- An option that has been given, with its value; the value is empty for an option that
takes none. -/
structure Given where
  switch : Switch
  value : String
  deriving DecidableEq, Repr, Inhabited

/-- What an argument is. -/
inductive Reading where
  /-- no option -/
  | positional
  /-- the end of all options -/
  | terminator
  | given (g : Given)
  /-- an option whose value is the next argument -/
  | awaiting (switch : Switch) (spelling : String)
  deriving DecidableEq, Repr, Inhabited

/-- What an argument is that begins with the long spelling of an option. -/
def Switch.readLong (o : Switch) (value? : Option String) : Except SwitchFault Reading :=
  match o.takesValue, value? with
  | true, some value => .ok (.given ⟨o, value⟩)
  | true, none => .ok (.awaiting o o.long)
  | false, none => .ok (.given ⟨o, ""⟩)
  | false, some _ => .error (.withValue o.long)

/-- What an argument is that consists of a dash, a letter and more. -/
def Scope.readLetter (s : Scope) (letter : Char) (rest : List Char) :
    Except SwitchFault Reading :=
  let spelling := String.ofList ['-', letter]
  match s.switches.find? fun o => o.letter? == some letter with
  | none => .error (.unknown spelling)
  | some o =>
    if rest.isEmpty then .ok (.awaiting o spelling)
    else .ok (.given ⟨o, String.ofList rest⟩)

/-- What an argument is. -/
def Scope.read (s : Scope) (arg : String) : Except SwitchFault Reading :=
  let text := arg.toList
  let spelling := String.ofList (text.takeWhile (· != '='))
  match text with
  | ['-', '-'] => .ok .terminator
  | '-' :: letter :: rest =>
    match s.switches.find? fun o => o.long == spelling with
    | some o =>
      o.readLong ((text.dropWhile (· != '=')).tail?.map String.ofList)
    | none => if letter = '-' then .error (.unknown spelling) else s.readLetter letter rest
  | _ => .ok .positional

/-- Arguments told apart. -/
structure Scanned where
  /-- the options, in order -/
  given : List Given
  /-- the other arguments, in order -/
  rest : List String
  deriving DecidableEq, Repr, Inhabited

namespace Scanned

/-- With an option in front. -/
def addGiven (g : Given) (s : Scanned) : Scanned := { s with given := g :: s.given }

/-- With another argument in front. -/
def addRest (arg : String) (s : Scanned) : Scanned := { s with rest := arg :: s.rest }

/-- The values of an option, in order. -/
def values (s : Scanned) (o : Switch) : List String :=
  (s.given.filter fun g => g.switch == o).map (·.value)

/-- The value of an option that counts once: the last one. -/
def value? (s : Scanned) (o : Switch) : Option String := (s.values o).getLast?

/-- Whether an option has been given. -/
def has (s : Scanned) (o : Switch) : Bool := s.given.any fun g => g.switch == o

end Scanned

/-- Tells the options of a scope from the other arguments. -/
def Scope.scan (s : Scope) : List String → Except SwitchFault Scanned
  | [] => .ok ⟨[], []⟩
  | arg :: rest =>
    match s.read arg with
    | .error fault => .error fault
    | .ok .terminator => .ok ⟨[], rest⟩
    | .ok .positional =>
      if s.isInterspersed then (s.scan rest).map (.addRest arg) else .ok ⟨[], arg :: rest⟩
    | .ok (.given g) => (s.scan rest).map (.addGiven g)
    | .ok (.awaiting o spelling) =>
      match rest with
      | [] => .error (.withoutValue spelling)
      | value :: rest => (s.scan rest).map (.addGiven ⟨o, value⟩)

end TezosNode.Cli

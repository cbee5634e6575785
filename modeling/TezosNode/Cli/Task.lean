import TezosNode.Cli.Page
import TezosNode.Client.Call
import TezosNode.Log.Line
import TezosNode.Text.CaseFold

set_option autoImplicit false

/-!
# Command line: tasks

A command line either gives a task, with the settings to carry it out, or stops the
program with a page or a message.  What stops it is found in a fixed order: the options
of the program, then the command, then the settings of the environment, then the options
and arguments of the command.  Within a scope, a misspelt option comes before a request
for help or the version, and that before anything else.
-/

namespace TezosNode.Cli

/-! ## Stops -/

/-- Why a command line is refused. -/
inductive Misuse where
  | option (fault : SwitchFault)
  | missingCommand
  | unknownCommand (name : String)
  | missingArgument (argument : Argument)
  | notAMethod (text : String)
  | notALevel (text : String)
  /-- more arguments than the command has -/
  | surplus (args : List String)
  | relativePath
  | dataWithoutPost
  | paramWithoutKey (text : String)
  /-- the environment has no valid settings -/
  | settings (fault : Config.Fault)
  deriving DecidableEq, Repr, Inhabited

/-- The wording for a text that is none of the words to choose from. -/
def choiceMessage (subject text : String) (words : List String) : String :=
  "Invalid value for '" ++ subject ++ "': " ++ Text.Quoted.quote text ++ " is not one of "
    ++ ", ".intercalate (words.map Text.Quoted.quote) ++ "."

/-- What is wrong with an option. -/
def SwitchFault.message : SwitchFault → String
  | .unknown spelling => "No such option " ++ Text.Quoted.quote spelling ++ "."
  | .withoutValue spelling => "Option " ++ Text.Quoted.quote spelling ++ " requires an argument."
  | .withValue spelling => "Option " ++ Text.Quoted.quote spelling ++ " does not take a value."

/-- The wording of a misuse. -/
def Misuse.message : Misuse → String
  | .option fault => fault.message
  | .missingCommand => "Missing command."
  | .unknownCommand name => "No such command " ++ Text.Quoted.quote name ++ "."
  | .missingArgument .method =>
    "Missing argument '" ++ Argument.method.label ++ "'. Choose from:\n\t"
      ++ ",\n\t".intercalate methodWords
  | .missingArgument a => "Missing argument '" ++ a.label ++ "'."
  | .notAMethod text => choiceMessage Argument.method.label text methodWords
  | .notALevel text => choiceMessage Switch.logLevel.long text levelWords
  | .surplus args =>
    "Got unexpected extra argument" ++ (if args.length = 1 then "" else "s") ++ " ("
      ++ " ".intercalate args ++ ")"
  | .relativePath => "Invalid value for " ++ Argument.path.label ++ ": path must start with '/'"
  | .dataWithoutPost => "Invalid value for " ++ Switch.data.long ++ ": only valid with POST"
  | .paramWithoutKey text =>
    "Invalid value: expected key=value, got " ++ Text.Quoted.quote text
  | .settings fault => fault.message

/-- Whether the message of a misuse comes with a hint on usage: not where an option is
known and only its value is wrong or absent. -/
def Misuse.hasHint : Misuse → Bool
  | .option (.withoutValue _) | .option (.withValue _) => false
  | _ => true

/-- What stops the program before it has a task. -/
inductive Stop where
  | version
  | help (scope : Scope)
  /-- no arguments at all -/
  | noArguments
  | refused (scope : Scope) (misuse : Misuse)
  deriving DecidableEq, Repr, Inhabited

/-- The exit code of a program that is used wrongly. -/
def misuseCode : Nat := 2

/-- The exit code after a stop. -/
def Stop.exitCode : Stop → Nat
  | .version | .help _ => 0
  | .noArguments | .refused _ _ => misuseCode

/-- What a stop prints to the standard output. -/
def Stop.output : Stop → String
  | .version => versionText
  | .help scope => scope.helpText
  | .noArguments | .refused _ _ => ""

/-- What a stop prints to the standard error. -/
def Stop.errors : Stop → String
  | .version | .help _ => ""
  | .noArguments => Scope.program.helpText
  | .refused scope misuse =>
    (if misuse.hasHint then scope.usageHint else "") ++ "Error: " ++ misuse.message ++ "\n"

/-! ## Options of the program -/

/-- The page that options ask for: that of the first such option. -/
def Scanned.page? (s : Scanned) (scope : Scope) : Option Stop :=
  s.given.findSome? fun g =>
    match g.switch with
    | .version => some .version
    | .help => some (.help scope)
    | _ => none

/-- The options and arguments of a scope, unless they ask for a page. -/
def Scope.accept (s : Scope) (args : List String) : Except Stop Scanned :=
  match s.scan args with
  | .error fault => .error (.refused s (.option fault))
  | .ok scanned =>
    match scanned.page? s with
    | some page => .error page
    | none => .ok scanned

/-- What the options of the program say. -/
structure Globals where
  /-- the node to talk to, if one is named -/
  host : Option String
  /-- the level that log records have to reach -/
  threshold : Log.Level
  format : Log.Format
  deriving DecidableEq, Repr, Inhabited

/-- The threshold if none is given. -/
def defaultThreshold : Log.Level := .warning

/-- The level of a word. -/
def levelOf? (text : String) : Option Log.Level :=
  if levelWords.contains (Text.foldCase text) then
    Log.levels.find? fun l => l.name == Text.foldCase text
  else none

/-- The threshold that options give. -/
def Scanned.threshold (s : Scanned) : Except Misuse Log.Level :=
  match s.value? .logLevel with
  | none => .ok defaultThreshold
  | some text =>
    match levelOf? text with
    | some level => .ok level
    | none => .error (.notALevel text)

/-- The node that options name, or else the environment unless it names it by an empty
text. -/
def Scanned.host? (s : Scanned) (env : Environment) : Option String :=
  (s.value? .host).or ((env.get? Config.hostVariable).filter (· != ""))

/-- Reads the options of the program up to its command. -/
def Globals.read (env : Environment) (args : List String) :
    Except Stop (Globals × List String) := do
  let scanned ← Scope.program.accept args
  match scanned.threshold with
  | .error misuse => throw (.refused .program misuse)
  | .ok threshold =>
    let format := if scanned.has .logJson then .json else .console
    return (⟨scanned.host? env, threshold, format⟩, scanned.rest)

/-- The command that arguments begin with.  What looks like an option there, but is
none for standing behind `--`, is read as an option all the same before it is refused as
a command. -/
def Command.read (env : Environment) : List String → Except Stop (Command × List String)
  | [] => .error (.refused .program .missingCommand)
  | name :: args =>
    match Command.ofName? name with
    | some c => .ok (c, args)
    | none =>
      match Globals.read env (name :: args) with
      | .error stop => .error stop
      | .ok _ => .error (.refused .program (.unknownCommand name))

/-! ## Tasks -/

/-- What a command line asks for. -/
inductive Task where
  /-- to show the head of the chain -/
  | head
  /-- to show the constants of the network -/
  | constants
  /-- to show the balance of an address at a block -/
  | balance (block address : String)
  /-- to show the body of an answer -/
  | call (method : Method) (path : String) (body : Option Bytes) (options : List Url.Param)
  deriving DecidableEq, Repr, Inhabited

/-- The command that asks for a task. -/
def Task.command : Task → Command
  | .head => .head
  | .constants => .constants
  | .balance _ _ => .balance
  | .call _ _ _ _ => .call

/-- The block that a balance is asked for if none is given. -/
def defaultBlock : String := "head"

/-- The method of a word. -/
def methodOf? (text : String) : Option Method :=
  match Text.foldCase text with
  | "get" => some .get
  | "post" => some .post
  | "delete" => some .delete
  | _ => none

/-- A parameter around the first equals sign. -/
def paramOf (text : String) : Except Misuse Url.Param :=
  let cs := text.toList
  match cs.dropWhile (· != '=') with
  | [] => .error (.paramWithoutKey text)
  | _ :: value => .ok (String.ofList (cs.takeWhile (· != '=')), String.ofList value)

/-- Refuses arguments beyond those of a command. -/
def refuseSurplus (args : List String) : Except Misuse Unit :=
  if args.isEmpty then .ok () else .error (.surplus args)

/-- The body that a call sends: for a POST the data, which may be absent, and nothing
otherwise. -/
def bodyOf (method : Method) (data : Option String) : Except Misuse (Option Bytes) :=
  match method, data with
  | .post, data => .ok (some (Text.Utf8.encode (data.getD "").toList))
  | _, none => .ok none
  | _, some _ => .error .dataWithoutPost

/-- The task of a balance. -/
def balanceTask (s : Scanned) : Except Misuse Task := do
  match s.rest with
  | [] => throw (.missingArgument .address)
  | address :: more =>
    refuseSurplus more
    return .balance ((s.value? .block).getD defaultBlock) address

/-- The task of a call. -/
def callTask (s : Scanned) : Except Misuse Task := do
  match s.rest with
  | [] => throw (.missingArgument .method)
  | word :: args =>
    match methodOf? word with
    | none => throw (.notAMethod word)
    | some method =>
      match args with
      | [] => throw (.missingArgument .path)
      | path :: more =>
        refuseSurplus more
        if path.toList.head? ≠ some '/' then throw .relativePath
        let body ← bodyOf method (s.value? .data)
        let options ← (s.values .param).mapM paramOf
        return .call method path body options

/-- The task of a command. -/
def Command.task (c : Command) (s : Scanned) : Except Misuse Task :=
  match c with
  | .head => (refuseSurplus s.rest).map fun _ => .head
  | .constants => (refuseSurplus s.rest).map fun _ => .constants
  | .balance => balanceTask s
  | .call => callTask s

/-! ## Command lines -/

/-- A task and the settings to carry it out. -/
structure Job where
  globals : Globals
  config : Config
  task : Task
  deriving DecidableEq, Repr, Inhabited

/-- The job of a command line in an environment, to which the variables of a file are
added before the settings are taken from it. -/
def Job.read (env : Environment) (file : Option Bytes) (args : List String) :
    Except Stop Job := do
  if args.isEmpty then throw .noArguments
  let (globals, rest) ← Globals.read env args
  let (command, rest) ← Command.read env rest
  match (Config.load env file).1 with
  | .error fault => throw (.refused .program (.settings fault))
  | .ok config =>
    let scope := Scope.command command
    let scanned ← scope.accept rest
    match command.task scanned with
    | .error misuse => throw (.refused scope misuse)
    | .ok task => return ⟨globals, config, task⟩

end TezosNode.Cli

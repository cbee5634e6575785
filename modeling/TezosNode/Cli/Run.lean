import TezosNode.Cli.Task
import TezosNode.Client.Bootstrap
import TezosNode.Log.Output
import TezosNode.Tez
import TezosNode.Text.ControlSequence

set_option autoImplicit false

/-!
# Command line: runs

A run of the program from its command line to its exit code: the result of the task on
the standard output, or else a message on the standard error, after the lines of the log.
Neither stream is a terminal, so texts lose their control sequences; log lines keep them.

A run is what the program does of its own accord.  How it ends depends on its surroundings as
well, which may want another thing of it, or keep it from its work.
-/

namespace TezosNode.Cli

/-! ## Results as text -/

/-- A block as text: its hash, its level and its protocol, and its time if it has one. -/
def blockText (b : Block) : String :=
  let line (label : String) (v : Option Json) := label ++ (v.getD .null).bare ++ "\n"
  let time := b.timestamp?.filter Json.isTruthy
  line "Hash:     " b.hash? ++ line "Level:    " b.level? ++ line "Protocol: " b.protocol?
    ++ (if time.isSome then line "Time:     " time else "")

/-- Constants as text. -/
def constantsText (c : Constants) : String := c.data.pretty ++ "\n"

/-- A balance as text, in tez and in mutez. -/
def balanceText (mutez : Int) : Except Failure String :=
  match Tez.ofMutez mutez with
  | .ok tez => .ok (tez.text ++ " tez\n(" ++ toString mutez ++ " mutez)\n")
  | .error signal => .error (.foreign (.amount signal))

/-- A body as text. -/
def bodyText (body : Bytes) : String := String.ofList (Text.Utf8.decodeLossy body) ++ "\n"

/-! ## Carrying out tasks -/

/-- Carries out a task, with its result as text. -/
def Task.perform : Task → Action String
  | .head => do
    let b ← Endpoint.head
    return blockText b
  | .constants => do
    let c ← Action.bootstrap
    return constantsText c
  | .balance block address => do
    let n ← Endpoint.balance block address
    balanceText n
  | .call method path body options => do
    let received ← Action.call method path body options
    return bodyText received

/-- What has failed, in messages. -/
def Task.title : Task → String
  | .head => "Head"
  | .constants => "Bootstrap"
  | .balance _ _ => "Balance"
  | .call _ _ _ _ => "Call"

/-- The message on a failure of a task. -/
def Task.complaint (t : Task) (f : Failure) : String := t.title ++ " failed: " ++ f.message ++ "\n"

/-! ## Runs -/

/-- What the program finds when it starts. -/
structure Launch where
  arguments : List String
  environment : Environment
  /-- a file of variables that are added to the environment -/
  file : Option Bytes
  /-- the replies that the node will give -/
  replies : List Reply
  /-- the readings of the clock to come, in nanoseconds -/
  clock : List Int
  /-- the time that log lines bear -/
  time : String
  deriving Repr, Inhabited

/-- What a run has done. -/
structure Run where
  /-- the exit code, or a failure that the program leaves to its surroundings -/
  exit : Except Failure Nat
  /-- the text on the standard output -/
  output : String
  /-- the text on the standard error -/
  errors : String
  /-- what happened in the session with the node, if there was one -/
  trace : List Event
  /-- the limits on waits of the transports that were set up -/
  timeouts : List Seconds
  deriving Inhabited

/-- A text for a stream that is not a terminal. -/
def plainText (s : String) : String := String.ofList (Text.dropControlSequences s.toList)

/-- The number of the transport that the program sets up. -/
def transportNumber : Nat := 0

/-- The stream that log lines go to. -/
def logStream : String := "stderr"

/-- The lines of a log. -/
def logText (g : Globals) (time : String) (records : List Log.Record) : String :=
  let output := Log.Output.initial.configure g.threshold.number logStream g.format
  String.join (records.flatMap fun r =>
    (output.emit time Log.loggerName r).map fun line => line.2 ++ "\n")

/-- The run of a program that stops before it has a task. -/
def Stop.run (s : Stop) : Run :=
  ⟨.ok s.exitCode, plainText s.output, plainText s.errors, [], []⟩

/-- The run of a job. -/
def Job.run (j : Job) (l : Launch) : Run :=
  match Session.start j.globals.host j.config [.plain] transportNumber l.replies l.clock with
  | .error fault => ⟨.error (.foreign (.value fault.message)), "", "", [], []⟩
  | .ok session =>
    let (result, session) := j.task.perform.runIn session
    let log := logText j.globals l.time (Session.records session.trace)
    let ended (exit : Except Failure Nat) (output complaint : String) : Run :=
      ⟨exit, plainText output, log ++ plainText complaint, session.trace, [j.config.timeout]⟩
    match result with
    | .ok text => ended (.ok 0) text ""
    | .error f =>
      match f.category? with
      | some category => ended (.ok category.exitCode) "" (j.task.complaint f)
      | none => ended (.error f) "" ""

/-- A run of the program. -/
def run (l : Launch) : Run :=
  match Job.read l.environment l.file l.arguments with
  | .error stop => stop.run
  | .ok job => job.run l

namespace Run

/-- The requests sent to the node. -/
def requests (r : Run) : List Request := (Session.requests r.trace).map (·.2)

/-- How often the idle connections to the node have been closed. -/
def idleCloses (r : Run) : Nat := Session.idleCloseCount r.trace transportNumber

end Run

/-! ## Surroundings -/

/-- What the surroundings of the program do to its end. -/
structure Surroundings where
  /-- how the program ends that is to complete a command line and not to carry it out -/
  completion? : Option (Except Failure Nat)
  /-- what keeps a transport from being set up, such as certificates that are missing -/
  obstacle? : Option Failure
  /-- what keeps a text from being printed, such as a character without a code, or a surrogate that
  a document held -/
  refusal? : Option Failure
  deriving Inhabited

/-- Surroundings that let the program be. -/
def Surroundings.usual : Surroundings := ⟨none, none, none⟩

/-- What happens to a run from outside: the transports that it sets up come before the text
that it prints. -/
def Surroundings.mishap? (w : Surroundings) (r : Run) : Option Failure :=
  (if r.timeouts.isEmpty then none else w.obstacle?)
    <|> (if r.output.isEmpty then none else w.refusal?)

/-- How the program ends in its surroundings. -/
def exitIn (w : Surroundings) (l : Launch) : Except Failure Nat :=
  match w.completion? with
  | some ended => ended
  | none =>
    match w.mishap? (run l) with
    | some f => .error f
    | none => (run l).exit

end TezosNode.Cli

import Std.Time.Format
import TezosNode.Cli.Run

set_option autoImplicit false

/-!
# The program

The command line of a process: its arguments, the variables that it takes settings from,
and the time.  The program has no network of its own, so every request is refused, as it
is where no node listens.
-/

namespace TezosNode.Cli

/-- The variables of the process that settings are taken from. -/
def processEnvironment : IO Environment :=
  Config.variableNames.filterMapM fun name => do
    let value ← IO.getEnv name
    return value.map (name, ·)

/-- The reply to a request where there is no network. -/
def noNetwork : Reply := .refused ⟨.connect, "no network"⟩

/-- The exit code after a failure that the program does not expect. -/
def unexpectedCode : Nat := 1

/-- What the program finds when it starts in this process. -/
def Launch.ofProcess (args : List String) : IO Launch := do
  let environment ← processEnvironment
  let now ← Std.Time.Timestamp.now
  let time := (Std.Time.DateTime.ofTimestamp now .UTC).toISO8601String
  return ⟨args, environment, none, [noNetwork], [], time⟩

/-- Prints what a run has printed, and gives its exit code. -/
def Run.finish (r : Run) : IO UInt32 := do
  IO.print r.output
  IO.eprint r.errors
  match r.exit with
  | .ok code => return code.toUInt32
  | .error f =>
    IO.eprintln f.message
    return unexpectedCode.toUInt32

end TezosNode.Cli

/-- The program. -/
def main (args : List String) : IO UInt32 := do
  let launch ← TezosNode.Cli.Launch.ofProcess args
  (TezosNode.Cli.run launch).finish

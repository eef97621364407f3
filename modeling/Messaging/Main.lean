import Messaging.Log.Line
import Messaging.Program
import Std.Time.DateTime.Timestamp

/-!
The command line: a run of the program is given the arguments, the environment and the clock, and
what it tells is printed. No connection is opened here: to a run the database is silent, and it
ends, at the latest, where the database is asked for the first time.
-/
namespace Messaging

def readEnvironment : IO Settings.Environment := do
  let pairs ← Program.variableNames.filterMapM fun name => do
    return (← IO.getEnv name).map fun value => (name, value)
  return fun name => pairs.lookup name

def readClock : IO Timestamp := do
  let now ← Std.Time.Timestamp.now
  let millis := now.toMillisecondsSinceUnixEpoch.val
  match Timestamp.ofUnixMillis? millis with
  | some now => return now
  | none => throw (IO.userError "the clock shows no year from -9999 to 9999")

def readNode : IO NodeId := do
  match NodeId.ofBytes? (← IO.getRandomBytes 6).toList with
  | some node => return node
  | none => throw (IO.userError "there is no chance to be had")

end Messaging

open Messaging in
/-- Runs the program and prints what it tells. -/
def main (args : List String) : IO UInt32 := do
  let now ← readClock
  let outcome := Program.run {
    words := (Config.programName :: args).map Utf8.ofString
    env := ← readEnvironment
    network := fun _ => .silent
    bind := fun settings => .ok (settings.host ++ ":" ++ toString settings.port)
    node := ← readNode
    sequence := 0
    requests := [] }
  for event in outcome.events do
    IO.println (event.line outcome.format now)
  IO.print outcome.output
  IO.eprint outcome.errors
  return outcome.exitCode.toUInt32

import MercuryLink.Console.Execute
import Std.Time.DateTime.Timestamp

/-!
# The program

Looks at its surroundings, carries the command line out, and writes what comes of it. The build
has no network of its own, so that no access point can be reached.
-/

namespace MercuryLink.Console

/-- The variables of the environment that the options of the program know. -/
def knownVariables : List String :=
  program.commands.flatMap fun c => c.options.filterMap fun o => o.standIn.map (·.name)

/-- The values of the known variables that are set. -/
def readVariables : IO (List (String × String)) :=
  knownVariables.filterMapM fun name => do
    let value ← IO.getEnv name
    return value.map fun v => (name, v)

/-- The time of day, in seconds. -/
def readTime : IO String := do
  let t ← Std.Time.Timestamp.now
  return Text.Outline.int t.toSecondsSinceUnixEpoch.val

end MercuryLink.Console

open MercuryLink MercuryLink.Console in
/-- Run the program. -/
def main (arguments : List String) : IO UInt32 := do
  let known ← readVariables
  let time ← readTime
  let output ← IO.getStdout
  let terminal ← output.isTty
  let surroundings : Surroundings :=
    { environment := fun name => known.lookup name
      terminal
      network := .isolated Connection
      time
      build := ⟨"unknown", "unknown", "unknown"⟩ }
  let response := respond surroundings arguments
  output.write ⟨response.output.toArray⟩
  output.flush
  if let some line := response.complaint then
    IO.eprintln line
  return response.code.toUInt32

import Recheck.Rehearsal.CommandLine

/-!
# The program

The program runs its command line on the scenario that it reads from standard input, and writes
what the run writes.
-/

namespace Recheck

def scenarioRoot : Text := "/project"

def usage : String :=
  "Usage: fastcheck [--version] [--verbose] COMMAND [OPTIONS]\n\n"
    ++ "Commands:\n"
    ++ "  check FILE      Check a single file.\n"
    ++ "  check-changed   Check all changed files (according to git).\n"
    ++ "  check-all       Check all files in the project.\n"
    ++ "  watch           Watch for file changes and check continuously.\n"

partial def readAll (input : IO.FS.Stream) (read : String) : IO String := do
  let line ← input.getLine
  if line.isEmpty then return read else readAll input (read ++ line)

def writeRun (run : Cli.Run) : IO Unit := do
  for writing in run.writings do
    match writing with
    | .result t => IO.print (String.ofList t)
    | .message t => IO.eprint (String.ofList t)

/-- Runs a command line on a scenario; its code. -/
def runScenario (scenario : Json) (arguments : List String) : IO UInt32 := do
  let performed :=
    (Rehearsal.CommandLine.ofScenario scenarioRoot scenario).perform (arguments.map String.toList)
  match performed.run with
  | some run => writeRun run
  | none => if performed.code = 0 then IO.print usage else IO.eprint usage
  return performed.code.toUInt32

end Recheck

def main (arguments : List String) : IO UInt32 := do
  let input ← Recheck.readAll (← IO.getStdin) ""
  match Recheck.Json.read? input.toList with
  | some scenario => Recheck.runScenario scenario arguments
  | none =>
    IO.eprintln "The scenario on standard input is no JSON document."
    return 2

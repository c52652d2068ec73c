import Recheck.Cli.Watch
import Recheck.Rehearsal.Scenario

/-!
# Rehearsals of the command line

A command line that is run on the files of a scenario with its collaborators.
-/

namespace Recheck.Rehearsal

structure CommandLine where
  stage : Stage
  place : Cli.Workplace World
  /-- What happens while a project is watched. -/
  turns : List WatchStep := []
  /-- The clock of watch events. -/
  clock : Number
  /-- Whether the user ends the watching; else it is told to stop. -/
  interrupted : Bool := true

structure Performed where
  /-- The run, unless the command line only shows how it is used. -/
  run : Option Cli.Run
  code : Nat
  commands : List (List Text × Text) := []

namespace CommandLine

/-- The course of a watch session: its start, then the turns, then its end. -/
def course (c : CommandLine) (initial : Bool) (p : Project World) (w : Watch World) :
    Cli.WatchEnd × Watch World :=
  let (result, last) :=
    Watching.run p (Cli.watchPatterns p.config.settings) (.start initial :: c.turns)
      { stage := c.stage, watch := { w with clock := c.clock } }
  let ended := match result with
    | .error failure => .escaped failure
    | .ok () => if c.interrupted then .interrupted else .stopped
  (ended, (Watch.stop.run last.watch).2)

/-- The run that an invocation asks for. -/
def invoke (c : CommandLine) (i : Cli.Invocation) : Cli.Run × World :=
  match i.command with
  | .check query => c.place.check c.stage.disk i query
  | .watch initial => c.place.watch c.stage.disk i (c.course initial)

/-- What the words of a command line leave. -/
def perform (c : CommandLine) (words : List Text) : Performed :=
  match Cli.readLine words with
  | .version => { run := some (Cli.versionRun c.place.environment), code := 0 }
  | .run i =>
    let (run, world) := c.invoke i
    { run := some run, code := run.ending.code, commands := world.commands.reverse }
  | usage => { run := none, code := usage.usageCode }

def ofScenario (root : Text) (scenario : Json) : CommandLine :=
  { stage := Scenario.stage root scenario
    place :=
      { parsed := Scenario.parsedOptions scenario
        tools := Scenario.tools scenario
        world := Scenario.world scenario
        environment :=
          { version := "0.1.0", interpreter := "CPython 3.11.0", platform := "Linux 6.1"
            compiler := scenario.textAt? "mypy_version" }
        time := "<time>" }
    turns := Scenario.watchSteps scenario
    clock := Scenario.clock scenario
    interrupted := scenario.textAt "end" ≠ "set" }

end CommandLine

end Recheck.Rehearsal

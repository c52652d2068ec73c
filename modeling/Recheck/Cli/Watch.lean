import Recheck.Cli.Check
import Recheck.Watch.Session

/-!
# The watch command

The watch command shows each event of a watch session: as a line of its own for programs, else
like the result of a check. An event that it cannot show is a failure of its delivery. Unless it
is quiet or speaks to a program, it also tells what the session is doing.
-/

namespace Recheck.Cli

/-- Whether the watch command tells what it is doing. -/
def RunOptions.isChatty (o : RunOptions) : Bool := !o.quiet && o.output != .json

def writeStatus (o : RunOptions) (message : Text) : List Writing :=
  if o.isChatty then [.message (message ++ ['\n'])] else []

/-- What the watch command writes for an event, unless that holds a number that cannot be spelled or
the stream does not take it. -/
def writeEvent (o : RunOptions) (e : Environment) (event : WatchEvent) :
    Except Failure (List Writing) :=
  match o.output with
  | .json =>
    if o.shows event.report then do
      let t ← event.line? o.metrics
      (e.writeResult .json (plainLine t)).map ([·])
    else .ok []
  | _ => o.writeShown e event.report

variable {σ : Type}

/-- What the watch command writes when its session tells something. -/
def Workplace.writeNote (w : Workplace σ) (verbose : Bool) (o : RunOptions) :
    WatchNote → List Writing
  | .note (.entry e) => w.writeEntries verbose [e]
  | .note (.status message) => writeStatus o message
  | .event event => (writeEvent o w.environment event).toOption.getD []
  | .failure f => [writeFault f.message o.output]

inductive WatchEnd
  | interrupted
  | stopped
  /-- A failure was left to others. -/
  | escaped (failure : Failure)

/-- What the watch command writes at the end. -/
def writeEnd (o : RunOptions) : WatchEnd → List Writing
  | .interrupted => writeStatus o "\nWatch mode stopped."
  | _ => []

def WatchEnd.ending : WatchEnd → Ending
  | .escaped failure => .broken failure
  | _ => .clean

/-- A run of the watch command that cannot open its project: faults are reported, and other
failures are left to others. -/
def Workplace.unopened (w : Workplace σ) (i : Invocation) (entries : List Entry)
    (failure : Failure) : Run :=
  let written := w.writeEntries i.verbose entries
  match failure with
  | .fault cause =>
    { writings := written ++ [writeFault cause.message (i.flags.output.getD .human)]
      ending := .fault }
  | failure => { writings := written, ending := .broken failure }

/-- A run of the watch command. `course` takes a new session from its start to its end. -/
def Workplace.watch (w : Workplace σ) (disk : Disk) (i : Invocation)
    (course : Project σ → Watch σ → WatchEnd × Watch σ) : Run × σ :=
  match w.openProject disk i with
  | (.error failure, entries) => (w.unopened i entries failure, w.world)
  | (.ok (project, options), entries) =>
    let (ended, watch) := course project
      { session := { world := w.world }
        reactor := { debounceMillis := options.debounceMillis }
        taker := fun event => (writeEvent options w.environment event).map fun _ => () }
    ({ writings := w.writeEntries i.verbose entries
        ++ writeStatus options "Starting watch mode..."
        ++ watch.told.reverse.flatMap (w.writeNote i.verbose options)
        ++ writeEnd options ended
       ending := ended.ending },
      watch.session.world)

/-- The patterns of the names of source files. -/
def watchPatterns (s : Settings) : List Text := s.extensions.map (['*'] ++ ·)

end Recheck.Cli

import Recheck.Change.Resolver
import Recheck.Cli.Invocation
import Recheck.Cli.Output
import Recheck.Session.Query

/-!
# Check commands

A check command opens the project, runs one query, and shows its result. Whatever keeps the
query from running is reported in the format of the results.
-/

namespace Recheck.Cli

/-- What a command works with. -/
structure Workplace (σ : Type) where
  parsed : ParsedOptions
  tools : Tools σ
  world : σ
  environment : Environment
  time : Text

variable {σ : Type}

/-- The entries of a journal that are shown. -/
def Workplace.writeEntries (w : Workplace σ) (verbose : Bool) (entries : List Entry) :
    List Writing :=
  (entries.filter (·.isShown verbose)).map (writeEntry w.time)

/-- The project of an invocation with the options of the run, and the entries that opening it
leaves in the journal. -/
def Workplace.openProject (w : Workplace σ) (disk : Disk) (i : Invocation) :
    Except Failure (Project σ × RunOptions) × List Entry :=
  Project.openAt disk (Path.tidy i.project) i.flags.over RunOptions.noCache RunOptions.metrics
    w.parsed w.tools

/-- The check that a query asks for. -/
def Query.run (p : Project σ) (disk : Disk) : Query → Activity σ Report
  | .file path => p.checkFile disk (Path.tidy path)
  | .changed => p.checkChanged (Change.changedFiles p p.config.settings.extensions) disk
  | .all => p.checkAll disk

/-- The sentence about a failure of a check: a fault speaks for itself. -/
def checkFailed : Failure → Text
  | .fault cause => cause.message
  | failure => "Check failed: " ++ failure.message

/-- What a failure of a check leaves in the journal: a fault leaves nothing. -/
def failureEntries : Failure → List Entry
  | .fault _ => []
  | _ => [⟨.commands, .debug, "Check failed"⟩]

/-- The entries among notes, the latest first. -/
def entriesOf (notes : List Note) : List Entry :=
  notes.reverse.filterMap fun n => match n with
    | .entry e => some e
    | .status _ => none

/-- A run that ends with a failure; an interruption is left to others. -/
def Workplace.failedRun (w : Workplace σ) (verbose : Bool) (entries : List Entry)
    (format : Format) (failure : Failure) : Run :=
  if failure.isHandled then
    { writings := w.writeEntries verbose (entries ++ failureEntries failure)
        ++ [writeFault (checkFailed failure) format]
      ending := .fault }
  else { writings := w.writeEntries verbose entries, ending := .broken failure }

def RunOptions.shows (o : RunOptions) (report : Report) : Bool := !o.quiet || !report.errors.isEmpty

/-- What a check command writes of a report. -/
def RunOptions.writeShown (o : RunOptions) (e : Environment) (report : Report) :
    Except Failure (List Writing) :=
  if o.shows report then (writeReport e report o.metrics o.output).map ([·]) else .ok []

/-- A run that has its report; a failure to write it is left to others. -/
def Workplace.reportedRun (w : Workplace σ) (verbose : Bool) (entries : List Entry)
    (o : RunOptions) (report : Report) : Run :=
  let written := w.writeEntries verbose entries
  match o.writeShown w.environment report with
  | .ok shown =>
    { writings := written ++ shown, ending := if report.errors.isEmpty then .clean else .findings }
  | .error failure => { writings := written, ending := .broken failure }

/-- A run of a check command. -/
def Workplace.check (w : Workplace σ) (disk : Disk) (i : Invocation) (query : Query) : Run × σ :=
  match w.openProject disk i with
  | (.error failure, entries) =>
    (w.failedRun i.verbose entries (i.flags.output.getD .human) failure, w.world)
  | (.ok (project, options), entries) =>
    let (answer, s) := (query.run project disk).run.run { world := w.world }
    let entries := entries ++ entriesOf s.notes
    let run := match answer with
      | .error failure => w.failedRun i.verbose entries options.output failure
      | .ok report => w.reportedRun i.verbose entries options report
    (run, s.world)

end Recheck.Cli

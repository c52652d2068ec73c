import Recheck.Change.Resolver
import Recheck.Report.Records

/-!
# Queries

Three ways to check a project: one file, a set of changed files against one program, and the
whole program. Files that are asked for are read again first; what the program says about them
becomes a report. A query sees one disk from its beginning to its end.
-/

namespace Recheck

inductive Request
  | single (path : Text)
  | changed (paths : List Text)
  | whole
  deriving DecidableEq, Repr

namespace Project

variable {σ : Type}

/-- A number of records in the words of the journal. -/
def diagnosticCount (records : List Record) : Text :=
  Text.ofNat records.length ++ " diagnostic(s)".toList

/-- The report of a query that started at a reading of the clock. -/
def report (p : Project σ) (errors : List Record) (start : Number) (filesChecked : Nat) :
    Activity σ Report := do
  if !p.collectMetrics then return { errors }
  match start.elapsedMillis (← Session.ask p.tools.tick) with
  | .ok checkMillis =>
    return { errors, metrics := some ⟨checkMillis, filesChecked, errors.length⟩ }
  | .error fault => throw (.arithmetic fault)

/-- The records of a file of a program, those that keep it from parsing first. -/
def fileRecords (p : Project σ) (program : Program) (path : Text) :
    Except Failure (List Record) := do
  Record.ofDiagnostics p.directory p.root
    ((← program.syntacticErrors p.directory path) ++ (← program.semanticErrors p.directory path))

/-- Whether a file is one of the source files. -/
def isRootFile (p : Project σ) (disk : Disk) (path : Text) : Activity σ Bool := do
  let path ← p.resolve disk path
  return (← p.rootFiles disk).contains path

def checkFile (p : Project σ) (disk : Disk) (path : Text) : Activity σ Report := do
  let start ← Session.ask p.tools.tick
  let path ← p.resolve disk path
  if !disk.isFile path then throw (.fault (.fileNotFound path))
  modify (·.refresh disk path false)
  let build ← p.program disk
  let errors ← p.fileRecords build.program path
  modify (·.log .checker
    ("Checked " ++ path ++ [':', ' '] ++ diagnosticCount errors))
  p.report errors start 1

/-- The files that exist among some paths, each once. -/
def existing (p : Project σ) (disk : Disk) (paths : List Text) : Except Failure (List Text) := do
  return (← paths.mapM (p.resolve disk)).eraseDups.filter disk.isFile

/-- The records of files one after the other, and the number of those that the program holds;
the others are passed over. -/
def collect (p : Project σ) (program : Program) :
    List Text → Activity σ (List Record × Nat)
  | [] => return ([], 0)
  | path :: paths => do
    match p.fileRecords program path with
    | .ok errors =>
      let (rest, count) ← collect p program paths
      return (errors ++ rest, count + 1)
    | .error (.fault (.notInProgram _)) =>
      modify (·.log .checker ("Skipping " ++ path ++ " (not part of the program)".toList))
      collect p program paths
    | .error failure => throw failure

/-- A check of the files among some paths that exist, all against one program. -/
def checkPaths (p : Project σ) (disk : Disk) (paths : List Text) : Activity σ Report := do
  let start ← Session.ask p.tools.tick
  let candidates ← p.existing disk paths
  modify fun s => candidates.foldl (fun s path => s.refresh disk path false) s
  if candidates.isEmpty then return ← p.report [] start 0
  let build ← p.program disk
  let (errors, checked) ← p.collect build.program candidates
  modify (·.log .checker
    ("Checked " ++ Text.ofNat checked ++ " changed file(s): ".toList ++ diagnosticCount errors))
  p.report errors start checked

/-- A check of the files that a resolver reports as changed. -/
def checkChanged (p : Project σ) (changed : Disk → Activity σ (List Text)) (disk : Disk) :
    Activity σ Report := do
  p.checkPaths disk (← changed disk)

def checkAll (p : Project σ) (disk : Disk) : Activity σ Report := do
  let start ← Session.ask p.tools.tick
  let build ← p.program disk
  let errors ← Record.ofDiagnostics p.directory p.root build.program.diagnostics
  let own := build.program.files.filter (Program.isOwnSource p.root)
  modify (·.log .checker
    ("Checked project: " ++ Text.ofNat own.length ++ " file(s), ".toList ++ diagnosticCount errors))
  p.report errors start own.length

def run (p : Project σ) (disk : Disk) : Request → Activity σ Report
  | .single path => p.checkFile disk path
  | .changed paths => p.checkPaths disk paths
  | .whole => p.checkAll disk

/-- The project with a configuration, and the entry that reading the options of the compiler
leaves in the journal. -/
def ofConfig (config : Config) (noCache collectMetrics : Bool) (parsed : ParsedOptions)
    (tools : Tools σ) : Except Failure (Project σ × Entry) := do
  let (options, entry) ← CompilerOptions.load config noCache parsed
  return ({ config, options, noCache, collectMetrics, tools }, entry)

/-- The project at a path, and the entries that opening it leaves in the journal. What must be
known of the settings before the project is opened comes from `choose`. -/
def openAt {α : Type} (disk : Disk) (path : Text) (choose : Settings → α)
    (noCache collectMetrics : α → Bool) (parsed : ParsedOptions) (tools : Tools σ) :
    Except Failure (Project σ × α) × List Entry :=
  match Config.load disk (Path.join tools.directory path) with
  | .error failure => (.error failure, [])
  | .ok (config, entry) =>
    let chosen := choose config.settings
    match ofConfig config (noCache chosen) (collectMetrics chosen) parsed tools with
    | .error failure => (.error failure, [entry])
    | .ok (project, entry') => (.ok (project, chosen), [entry, entry'])

/-- The project at a path, where the settings have no say in caching and figures. -/
def start (disk : Disk) (path : Text) (noCache collectMetrics : Bool) (parsed : ParsedOptions)
    (tools : Tools σ) : Except Failure (Project σ) × List Entry :=
  let (opened, entries) :=
    openAt disk path (fun _ => ()) (fun _ => noCache) (fun _ => collectMetrics) parsed tools
  (opened.map (·.1), entries)

end Project

end Recheck

import Recheck.Compiler
import Recheck.Snapshot

/-!
# Sessions

A session keeps one program of a project at hand. It holds the texts of the files that it has
read, each with a version, and builds again when the source files or their versions are others
than those of the last build.
-/

namespace Recheck

/-- What happens during a session that others can see. -/
inductive Note
  | entry (e : Entry)
  | status (message : Text)
  deriving DecidableEq, Repr

/-- A finished build: its program, the sources that went into it, and the versions that the
source files had then. Builds of a session are numbered. -/
structure Build where
  number : Nat
  program : Program
  sources : List Source
  versions : List (Text × Nat)

/-- What stays the same during a session. -/
structure Project (σ : Type) where
  config : Config
  options : CompilerOptions
  noCache : Bool
  collectMetrics : Bool
  tools : Tools σ

/-- What changes during a session. -/
structure Session (σ : Type) where
  store : SnapshotStore := {}
  build : Option Build := none
  world : σ
  /-- What others saw, the latest first. -/
  notes : List Note := []

/-- An activity of a session: it may fail, and what it did to the session stays. -/
abbrev Activity (σ : Type) (α : Type) := ExceptT Failure (StateM (Session σ)) α

namespace Session

variable {σ : Type}

def note (n : Note) (s : Session σ) : Session σ := { s with notes := n :: s.notes }

/-- The session with an entry in its journal. -/
def log (part : Part) (message : Text) (s : Session σ) : Session σ :=
  s.note (.entry ⟨part, .debug, message⟩)

/-- The session with a message to its observer. -/
def announce (message : Text) (s : Session σ) : Session σ :=
  (s.log .host message).note (.status message)

/-- The version of a path in the eyes of a build; a path without a snapshot has version zero. -/
def versionOf (s : Session σ) (path : Text) : Nat := (s.store.version? path).getD 0

/-- The session after a file was read again, if it can be read. -/
def refresh (disk : Disk) (path : Text) (force : Bool) (s : Session σ) : Session σ :=
  match disk.text? path with
  | some content => { s with store := s.store.update path content force }
  | none => s.log .host ("Cannot read " ++ path ++ ": <reason>".toList)

/-- The session with the first text of a file read, if it has no snapshot and is a file. -/
def ensureRead (disk : Disk) (path : Text) (s : Session σ) : Session σ :=
  if s.store.contains path || !disk.isFile path then s else s.refresh disk path false

/-- The session with all source files read: again when nothing may be kept, else those that
have not been read yet. -/
def readAll (disk : Disk) (again : Bool) (paths : List Text) (s : Session σ) : Session σ :=
  paths.foldl (fun s path => if again then s.refresh disk path true else s.ensureRead disk path) s

/-- The versions of source files, each file once. -/
def versionsOf (s : Session σ) (paths : List Text) : List (Text × Nat) :=
  paths.eraseDups.map fun path => (path, s.versionOf path)

/-- Whether two lists give the same versions to the same files, in any order. -/
def sameVersions (a b : List (Text × Nat)) : Bool :=
  a.length == b.length && a.all b.contains

/-- The sources with the texts that the session has for them; files that have not been read are
read first. -/
def withTexts (directory : Text) (disk : Disk) : List Source → Session σ → List Source × Session σ
  | [], s => ([], s)
  | source :: sources, s =>
    match source.path with
    | none | some [] =>
      let (rest, s) := withTexts directory disk sources s
      (source :: rest, s)
    | some path =>
      let path := Path.normalize directory path
      let s := s.ensureRead disk path
      let text := (s.store.get? path).map (·.content)
      let (rest, s) := withTexts directory disk sources s
      ({ source with text } :: rest, s)

/-- The session without the snapshots of files that are no source files and do not exist. -/
def prune (disk : Disk) (roots : List Text) (s : Session σ) : Session σ :=
  let keep (path : Text) : Bool := roots.contains path || disk.exists? path
  match s.store.dropped keep with
  | [] => s
  | paths =>
    { s with store := s.store.prune keep }.log .host
      ("Pruned " ++ Text.ofNat paths.length ++ " stale snapshot(s)".toList)

def ask {α : Type} (question : σ → α × σ) : Activity σ α := fun s =>
  let (answer, world) := question s.world
  (.ok answer, { s with world })

end Session

namespace Project

variable {σ : Type}

def root (p : Project σ) : Text := p.config.root

def directory (p : Project σ) : Text := p.tools.directory

/-- The absolute path without links of a path from the project root. -/
def resolve (p : Project σ) (disk : Disk) (path : Text) : Except Failure Text :=
  Config.resolve disk (Path.within p.root path)

def sourcePaths (sources : List Source) : List Text :=
  (sources.filterMap (·.path)).filter (!·.isEmpty)

/-- The source files of the project: those that the options name, or all below the root. -/
def rootFiles (p : Project σ) (disk : Disk) : Activity σ (List Text) := do
  match ← Session.ask (p.tools.discover disk (p.options.targets p.root) true) with
  | .error reason => throw (.fault (.sourcesNotCollected reason (some p.root)))
  | .ok sources => return (sourcePaths sources).map (Path.normalize p.directory)

/-- A program built from the source files, with the sources that went into it. An error that
stops the build leaves a program of the source files alone. -/
def createProgram (p : Project σ) (disk : Disk) : Activity σ (Program × List Source) := do
  let roots ← p.rootFiles disk
  match ← Session.ask (p.tools.discover disk roots false) with
  | .error reason => throw (.fault (.sourcesNotCollected reason none))
  | .ok found =>
    let sources ← modifyGet (Session.withTexts p.directory disk found)
    match ← Session.ask (p.tools.build sources) with
    | .failed failure => throw failure
    | .blocked lines module =>
      modify (·.log .compiler ("mypy build stopped by blocking errors in " ++ module))
      return (← Program.ofLines p.directory lines roots, sources)
    | .finished lines loaded =>
      return (← Program.ofLines p.directory lines (roots ++ loaded.filter (!·.isEmpty)), sources)

/-- The program that is at hand, if it was built from these versions. -/
def current? (versions : List (Text × Nat)) (s : Session σ) : Option Build :=
  s.build.filter fun b => Session.sameVersions versions b.versions

/-- The program of the project: the one at hand if no source file has another version than it
was built with, and a new one otherwise. -/
def program (p : Project σ) (disk : Disk) : Activity σ Build := do
  let roots ← p.rootFiles disk
  modify (·.readAll disk p.noCache roots)
  let s ← get
  let versions := s.versionsOf roots
  match current? versions s with
  | some build => return build
  | none =>
    modify (·.prune disk roots)
    modify (·.announce
      ("Building program (" ++ Text.ofNat roots.length ++ " root files)".toList))
    let (program, sources) ← p.createProgram disk
    let number := (s.build.map (·.number)).getD 0 + 1
    let build : Build := { number, program, sources, versions }
    modify fun s => { s with build := some build }
    modify (·.announce
      ("Program ready (" ++ Text.ofNat program.diagnostics.length ++ " diagnostics)".toList))
    return build

end Project

end Recheck

import Recheck.Compiler
import Recheck.Disk.Edit
import Recheck.Disk.Walk

/-!
# Rehearsals

A rehearsal runs a session with collaborators that follow a script: a compiler whose messages
stand in the sources themselves, a version control with fixed answers, and a clock with fixed
readings. Nothing outside the disk of the rehearsal is asked.
-/

namespace Recheck.Rehearsal

structure CompilerScript where
  /-- The number of the search for sources that fails, counted from one, and the reason. -/
  failingSearch : Option (Nat × Text) := none
  /-- Whether a source without a path is found after the others. -/
  hasPathless : Bool := false
  /-- Messages at the end of every build. -/
  messages : List Text := []
  /-- Files that every build loads besides its sources. -/
  extraFiles : List Text := []

structure VersionControlScript where
  executable : Text := "git"
  missing : Bool := false
  failing : Option Text := none
  complaints : Text := "fatal: scripted\n"
  topLevel : Text := []
  status : Text := []

structure World where
  searches : Nat := 0
  /-- The sources of each build, the latest first. -/
  builds : List (List Source) := []
  /-- The readings of the clock that are still to come; the last one stays. -/
  readings : List Number := []
  /-- The commands of version control with their directory, the latest first. -/
  commands : List (List Text × Text) := []

def isSourceName (name : Text) : Bool :=
  List.isSuffixOf ['.', 'p', 'y'] name || List.isSuffixOf ['.', 'p', 'y', 'i'] name

/-- The source at a path, named after the file. -/
def sourceAt (path : Text) : Source :=
  { path := some path, module := Path.stem (Path.fileName path) }

/-- The source files below a directory, in the order of their paths; directories of finished
builds are left out. -/
def sourcesBelow (disk : Disk) (directory : Text) : List Text :=
  let paths := (disk.walk (· == "build".toList) directory).map fun names =>
    directory ++ ['/'] ++ Path.glue names
  (paths.filter fun path => isSourceName path && disk.isFile path).mergeSort fun a b =>
    !Text.before b a

def sourcesOf (disk : Disk) (allowEmpty : Bool) (target : Text) : Except Text (List Source) :=
  if disk.isDirectory target then
    match sourcesBelow disk target with
    | [] =>
      if allowEmpty then .ok []
      else .error ("There are no .py[i] files in directory '" ++ target ++ ['\''])
    | paths => .ok (paths.map sourceAt)
  else if disk.isFile target then .ok [sourceAt target]
  else .error ("Cannot find '" ++ target ++ ['\''])

def discover (script : CompilerScript) (disk : Disk) (targets : List Text) (allowEmpty : Bool)
    (w : World) : Except Text (List Source) × World :=
  let w := { w with searches := w.searches + 1 }
  let found : Except Text (List Source) := do
    let sources := (← targets.mapM (sourcesOf disk allowEmpty)).flatten
    return if script.hasPathless then sources ++ [{ path := none, module := "pathless" }]
      else sources
  match script.failingSearch with
  | some (call, reason) => (if call = w.searches then .error reason else found, w)
  | none => (found, w)

/-- A build as far as it has come: the messages and the files loaded on request, the latest
first. -/
structure Progress where
  lines : List Text := []
  loaded : List Text := []

/-- One line of a source, as the compiler of the rehearsal reads it: a message, a breakdown, an
error that stops the build, or a file to load. -/
def readLine (source : Source) (progress : Progress) (line : Text) :
    Except BuildOutcome Progress :=
  match Text.dropHead? "#: " line with
  | some ('@' :: rest) =>
    .ok { progress with lines := (source.path.getD [] ++ rest) :: progress.lines }
  | some rest => .ok { progress with lines := rest :: progress.lines }
  | none =>
    match Text.dropHead? "#! " line with
    | some reason => .error (.failed (.crash reason))
    | none =>
      if line = ("#blocker" : Text) then .error (.blocked progress.lines.reverse source.module)
      else
        match Text.dropHead? "#load " line with
        | some path => .ok { progress with loaded := path :: progress.loaded }
        | none => .ok progress

/-- A build that has read a source. -/
def readSource (progress : Progress) (source : Source) : Except BuildOutcome Progress :=
  (Text.lines (source.text.getD [])).foldlM (readLine source) progress

def build (script : CompilerScript) (sources : List Source) (w : World) : BuildOutcome × World :=
  let w := { w with builds := sources :: w.builds }
  match sources.foldlM readSource {} with
  | .error outcome => (outcome, w)
  | .ok progress =>
    (.finished (progress.lines.reverse ++ script.messages)
      (sources.filterMap (·.path) ++ progress.loaded.reverse ++ script.extraFiles), w)

def tick (w : World) : Number × World :=
  match w.readings with
  | [] => (.whole 0, w)
  | [reading] => (reading, w)
  | reading :: rest => (reading, { w with readings := rest })

def versionControl (script : VersionControlScript) (directory : Text) (arguments : List Text)
    (w : World) : VersionControlReply × World :=
  let w := { w with commands := (script.executable :: arguments, directory) :: w.commands }
  let command := arguments.head?
  let reply : VersionControlReply :=
    if script.missing then .missing
    else if script.failing = command then .failed script.complaints
    else if command = some ("rev-parse" : Text) then .output script.topLevel
    else if command = some ("status" : Text) then .output script.status
    else .output []
  (reply, w)

def tools (compiler : CompilerScript) (control : VersionControlScript) : Tools World :=
  { discover := discover compiler, build := build compiler, tick := tick
    versionControl := versionControl control }

end Recheck.Rehearsal

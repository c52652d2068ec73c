import Recheck.Disk.Probe
import Recheck.Disk.Walk
import Recheck.Glob
import Recheck.Journal

/-!
# The watcher

The watcher looks at files again and again and tells a listener which of them are new, changed
or gone since it last looked. A file has changed when the time of its last change is another
one. A listener that fails is told of the remaining files all the same, unless it was interrupted.
A look sees one disk, and a relative path counts from the root of the disk.
-/

namespace Recheck.Watcher

/-- The files that were seen, with the times of their last change, each once. -/
abbrev Baseline := List (Text × Int)

/-- The patterns that are used when none are given. -/
def defaultPatterns : List Text := ["*.py", "*.pyi"]

def effectivePatterns (given : List Text) : List Text :=
  if given.isEmpty then defaultPatterns else given

def isWatched (patterns : List Text) (name : Text) : Bool :=
  patterns.any fun pattern => Glob.matchesName pattern name

/-- The names of directories that hold no files of the project itself. -/
def skippedNames : List Text := ["__pycache__", "node_modules", "site-packages"]

/-- Whether a directory is left out with all below it. -/
def isSkipped (name : Text) : Bool := skippedNames.contains name || name.head? == some '.'

/-- The baseline with the time of a file; a file that was seen before keeps its place. -/
def record (path : Text) (changed : Int) : Baseline → Baseline
  | [] => [(path, changed)]
  | (other, time) :: rest =>
    if other = path then (path, changed) :: rest else (other, time) :: record path changed rest

/-- The watched files at or below a path: the path itself if it is a file, else the files below
it whose names match. -/
def filesAt (disk : Disk) (patterns : List Text) (path : Text) : List Text :=
  let path := Path.tidy path
  if disk.isFile path then [path]
  else
    ((disk.walk isSkipped path).filter fun names =>
      isWatched patterns (names.getLast?.getD [])).map fun names =>
        Path.within path (Path.glue names)

/-- The files that are seen now, in the order in which they are found. -/
def scan (disk : Disk) (patterns paths : List Text) : Baseline :=
  (paths.flatMap (filesAt disk patterns)).foldl (fun seen path =>
    match disk.changed? path with
    | some changed => record path changed seen
    | none => seen) []

/-- Why a path cannot be looked at: it can be no path of a disk, or is too long. -/
def obstacle? (disk : Disk) (path : Text) : Option Failure :=
  let path := Path.tidy path
  if path.contains '\x00' then some .nulInPath
  else
    match disk.probeFile path with
    | .error failure => some failure
    | .ok _ => none

/-- The files that are seen now, unless one of the paths cannot be looked at. -/
def scan? (disk : Disk) (patterns paths : List Text) : Except Failure Baseline :=
  match paths.findSome? (obstacle? disk) with
  | some failure => .error failure
  | none => .ok (scan disk patterns paths)

/-- The files that differ between two looks: those that are new or have another time, in the
order of the second, then those that are gone, in the order of the first. -/
def difference (before now : Baseline) : List Text :=
  (now.filter fun (path, changed) => before.lookup path ≠ some changed).map Prod.fst
    ++ (before.filter fun (path, _) => (now.lookup path).isNone).map Prod.fst

/-- What is written down when the listener fails for a path. -/
def listenerEntry (path : Text) (failure : Failure) : Entry :=
  ⟨.watch, .error, "Error in change callback for " ++ path ++ [':', ' '] ++ failure.message⟩

/-- What comes of a look at the files. -/
structure Look where
  /-- The files that are to be compared with at the next look. -/
  baseline : Baseline
  /-- The changed paths, or why the look ended early. -/
  changed : Except Failure (List Text)
  /-- What was written down. -/
  entries : List Entry := []

section

variable {m : Type → Type} [Monad m]

/-- Tells a listener of paths, one after the other, until it is interrupted; what is written down
meanwhile. -/
def tellAll (listener : Text → m (Except Failure Unit)) :
    List Text → m (List Entry × Except Failure Unit)
  | [] => return ([], .ok ())
  | path :: paths => do
    match ← listener path with
    | .ok () => tellAll listener paths
    | .error failure =>
      if failure.isHandled then
        let (entries, ending) ← tellAll listener paths
        return (listenerEntry path failure :: entries, ending)
      else return ([], .error failure)

/-- Tells a listener of the files that are other ones now. However that ends, the next look
compares with them as they are now. -/
def tellDifference (listener : Text → m (Except Failure Unit)) (before now : Baseline) :
    m Look := do
  let changed := difference before now
  let (entries, ending) ← tellAll listener changed
  return { baseline := now, changed := ending.map fun () => changed, entries }

/-- A look at the files, of which the listener is told. -/
def poll (listener : Text → m (Except Failure Unit)) (disk : Disk) (patterns paths : List Text)
    (before : Baseline) : m Look := do
  match scan? disk patterns paths with
  | .error failure => return { baseline := before, changed := .error failure }
  | .ok now => tellDifference listener before now

end

/-- The first look, of which nobody is told. -/
def start (disk : Disk) (patterns paths : List Text) (before : Baseline) : Look :=
  match scan? disk patterns paths with
  | .error failure => { baseline := before, changed := .error failure }
  | .ok now => { baseline := now, changed := .ok [] }

end Recheck.Watcher

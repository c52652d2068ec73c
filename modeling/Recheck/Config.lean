import Recheck.Config.Ini
import Recheck.Config.Settings
import Recheck.Config.Toml
import Recheck.Disk.Probe
import Recheck.Journal

/-!
# Configuration of a project

A project is a directory with a configuration of the compiler, which is looked for in a fixed
list of files, and with settings in its project file.
-/

namespace Recheck

structure Config where
  root : Text
  compilerConfig : Text
  settings : Settings

namespace Config

def fileText (disk : Disk) (path : Text) : Except Failure Text :=
  match disk.text? path with
  | some t => .ok t
  | none => .error .undecodable

def readToml (disk : Disk) (path : Text) : Except Failure (List (Text × Datum)) := do
  match Toml.read (← fileText disk path) with
  | .ok fields => return fields
  | .error .malformed => throw (.fault (.unparsable "<toml error>" path))
  | .error (.tooManyDigits count) => throw (.tooManyDigits count)

def readIni (disk : Disk) (path : Text) : Except Failure (List Text) := do
  match Ini.sections? (← fileText disk path) with
  | some sections => return sections
  | none => throw (.fault (.unparsable "<ini error>" path))

/-- The entry for tools in a project file; a table without fields in its absence. -/
def toolEntry (fields : List (Text × Datum)) : Datum :=
  (fields.lookup ['t', 'o', 'o', 'l']).getD (.table [])

/-- Whether a value names something: a field of a table, an item of a list, a part of a text. -/
def names (name : Text) : Datum → Except Failure Bool
  | .table fields => .ok (fields.lookup name).isSome
  | .list items => .ok (items.any fun item => match item with
      | .text t => t == name
      | _ => false)
  | .text t => .ok (Text.has name t)
  | _ => .error .notSearchable

/-- A field of a value that must be a table; a table without fields in its absence. -/
def tableField (name : Text) : Datum → Except Failure Datum
  | .table fields => .ok ((fields.lookup name).getD (.table []))
  | _ => .error .notATable

/-- The files that may configure the compiler, in the order in which they are looked for. -/
inductive Candidate
  | plain (name : Text)
  /-- The project file, when it has an entry for the compiler among the tools. -/
  | projectFile
  /-- The setup file, when it has a section for the compiler. -/
  | setupFile
  deriving DecidableEq, Repr

/-- The order in which configurations are looked for. -/
def candidates : List Candidate :=
  [.plain "mypy.ini", .plain ".mypy.ini", .projectFile, .setupFile]

def Candidate.name : Candidate → Text
  | plain name => name
  | projectFile => "pyproject.toml"
  | setupFile => "setup.cfg"

/-- Whether a file that exists configures the compiler. A file that does not parse is a fault. -/
def Candidate.applies (disk : Disk) (path : Text) : Candidate → Except Failure Bool
  | plain _ => do
    let _ ← readIni disk path
    return true
  | projectFile => do names "mypy" (toolEntry (← readToml disk path))
  | setupFile => do return (← readIni disk path).contains "mypy"

/-- The first candidate of a list that configures the compiler. -/
def firstApplying (disk : Disk) (root : Text) : List Candidate → Except Failure (Option Text)
  | [] => .ok none
  | candidate :: rest => do
    let path := Path.within root candidate.name
    if ← disk.probeFile path then
      if ← candidate.applies disk path then return some path else firstApplying disk root rest
    else firstApplying disk root rest

/-- The file that configures the compiler for the project at a root. -/
def findCompilerConfig (disk : Disk) (root : Text) : Except Failure (Option Text) :=
  firstApplying disk root candidates

/-- The settings in the project file, and the defaults where there is none. -/
def loadSettings (disk : Disk) (root : Text) : Except Failure Settings := do
  let path := Path.within root Candidate.projectFile.name
  if !(← disk.probeFile path) then return {}
  let data ← tableField "fastcheck" (toolEntry (← readToml disk path))
  match Settings.read data with
  | .valid settings => return settings
  | .problems problems =>
    throw (.fault (.invalidSettings (Problem.summary "tool.fastcheck" problems) path))

/-- The path without links, unless its links run in a circle. -/
def resolve (disk : Disk) (path : Text) : Except Failure Text :=
  if path.contains '\x00' then .error .nulInPath
  else
    match disk.resolve path with
    | .ok path => .ok path
    | .error path => .error (.linkCircle path)

def load (disk : Disk) (path : Text) : Except Failure (Config × Entry) := do
  let root ← resolve disk path
  if !(← disk.probeDirectory root) then throw (.fault (.notADirectory root))
  match ← findCompilerConfig disk root with
  | none => throw (.fault (.noCompilerConfig root))
  | some compilerConfig =>
    let settings ← loadSettings disk root
    let entry : Entry := ⟨.config, .debug,
      "Using " ++ Path.fileName compilerConfig ++ " for ".toList ++ root⟩
    return ({ root, compilerConfig, settings }, entry)

end Config

end Recheck

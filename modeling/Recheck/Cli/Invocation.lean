import Recheck.Cli.Arguments
import Recheck.Cli.Options
import Recheck.Cli.Value

/-!
# Invocations

What a command line asks for: one of the commands with its options, or the version, or help.
Options before the name of the command are about the program, all others about the command. The
texts of the help and of the usage are not told.
-/

namespace Recheck.Cli

inductive OptionName
  | version
  | verbose
  | help
  | project
  | output
  | quiet
  | metrics
  | noCache
  | debounce
  | pollInterval
  | initial
  | noInitial
  deriving DecidableEq, Repr

inductive Query
  | file (path : Text)
  | changed
  | all
  deriving DecidableEq, Repr

inductive Command
  | check (query : Query)
  /-- Watching, with a check of the whole project first or without one. -/
  | watch (initial : Bool)
  deriving DecidableEq, Repr

/-- A command with the project that it is about and with its flags. -/
structure Invocation where
  verbose : Bool
  command : Command
  project : Text
  flags : Flags

inductive Reading
  | version
  | help
  | run (invocation : Invocation)
  /-- Nothing that the program can do. -/
  | misuse

/-- The code of a program that only shows how it is used. -/
def Reading.usageCode : Reading → Nat
  | misuse => 2
  | _ => 0

def helpSpec : OptionSpec OptionName := { key := .help, long := "--help" }

def programSpecs : List (OptionSpec OptionName) :=
  [{ key := .version, long := "--version", short := 'v' },
    { key := .verbose, long := "--verbose", short := 'V' }, helpSpec]

def commonSpecs : List (OptionSpec OptionName) :=
  [{ key := .project, long := "--project", short := 'p', takesValue := true },
    { key := .output, long := "--output", short := 'o', takesValue := true },
    { key := .quiet, long := "--quiet", short := 'q' },
    { key := .metrics, long := "--metrics", short := 'm' },
    { key := .noCache, long := "--no-cache" }, helpSpec]

def watchSpecs : List (OptionSpec OptionName) :=
  commonSpecs ++
    [{ key := .debounce, long := "--debounce", takesValue := true },
      { key := .pollInterval, long := "--poll-interval", takesValue := true },
      { key := .initial, long := "--initial" }, { key := .noInitial, long := "--no-initial" }]

/-- The value of an option if it is given, unless the word for it is no such value. -/
def optionalValue {α : Type} (read? : Text → Option α) : Option Text → Option (Option α)
  | none => some none
  | some word => (read? word).map some

def Flags.read? (a : Arguments OptionName) : Option Flags := do
  return {
    output := ← optionalValue formatValue? (a.value? .output)
    quiet := a.has .quiet
    metrics := a.has .metrics
    noCache := a.has .noCache
    debounceMillis := ← optionalValue countValue? (a.value? .debounce)
    pollInterval := ← optionalValue pollValue? (a.value? .pollInterval) }

inductive CommandName
  | check
  | checkChanged
  | checkAll
  | watch
  deriving DecidableEq, Repr

def commandNames : List (Text × CommandName) :=
  [("check", .check), ("check-changed", .checkChanged), ("check-all", .checkAll),
    ("watch", .watch)]

def CommandName.specs : CommandName → List (OptionSpec OptionName)
  | watch => watchSpecs
  | _ => commonSpecs

/-- The command with its arguments: one operand for the check of a file, else none. -/
def CommandName.command? (a : Arguments OptionName) : CommandName → Option Command
  | check =>
    match a.operands with
    | [path] => (pathValue? path).map fun path => .check (.file path)
    | _ => none
  | checkChanged => if a.operands.isEmpty then some (.check .changed) else none
  | checkAll => if a.operands.isEmpty then some (.check .all) else none
  | watch =>
    if a.operands.isEmpty then
      some (.watch (a.last? [.initial, .noInitial] != some .noInitial))
    else none

/-- What the words behind the name of a command ask for. A call for help wins over values that
cannot be read. -/
def readCommand (verbose : Bool) (name : CommandName) (words : List Text) : Reading :=
  match Arguments.read? name.specs false words with
  | none => .misuse
  | some a =>
    if a.has .help then .help
    else
      match name.command? a, pathValue? ((a.value? .project).getD ['.']), Flags.read? a with
      | some command, some project, some flags => .run { verbose, command, project, flags }
      | _, _, _ => .misuse

/-- A request for the version or for help among the options of the program; the first counts. -/
def readEager (a : Arguments OptionName) : Option Reading :=
  match a.first? [.version, .help] with
  | some .version => some .version
  | some _ => some .help
  | none => none

/-- What words ask for that do not start with the name of a command: where they start with
options of the program, those may still ask for the version or for help. -/
def readUnnamed (words : List Text) : Reading :=
  ((Arguments.read? programSpecs true words).bind readEager).getD .misuse

def readLine (words : List Text) : Reading :=
  match Arguments.read? programSpecs true words with
  | none => .misuse
  | some a =>
    match readEager a, a.operands with
    | some reading, _ => reading
    | none, [] => .misuse
    | none, name :: rest =>
      match commandNames.lookup name with
      | some command => readCommand (a.has .verbose) command rest
      | none => readUnnamed (name :: rest)

end Recheck.Cli

import Recheck.Change.Command
import Recheck.Config
import Recheck.Program

/-!
# Compilers

What a session asks of a compiler: to read its options, to find the source files, and to build
them. The options that shape the messages are fixed, because the messages are read back.
-/

namespace Recheck

structure CompilerOptions where
  showColumnNumbers : Bool := false
  showErrorEnd : Bool := true
  hideErrorCodes : Bool := true
  showErrorContext : Bool := true
  showAbsolutePath : Bool := false
  pretty : Bool := true
  colorOutput : Bool := true
  errorSummary : Bool := true
  output : Option Text := some ['j', 's', 'o', 'n']
  incremental : Bool := true
  cacheDir : Text := ".mypy_cache"
  files : Option (List Text) := none
  deriving DecidableEq, Repr

/-- What reading a configuration gives: the options, what was complained about, and the status
of a compiler that gave up. -/
structure ParsedOptions where
  options : CompilerOptions := {}
  complaints : Text := []
  exitStatus : Option Text := none
  deriving DecidableEq, Repr

namespace CompilerOptions

/-- The options with the shape of messages that can be read back. -/
def withReadableMessages (o : CompilerOptions) : CompilerOptions :=
  { o with
    showColumnNumbers := true
    showErrorEnd := false
    hideErrorCodes := false
    showErrorContext := false
    showAbsolutePath := true
    pretty := false
    colorOutput := false
    errorSummary := false
    output := none }

/-- The options with the cache where it belongs: nowhere when caching is off, and below the
project root when its path is relative. -/
def withCache (o : CompilerOptions) (root : Text) (noCache : Bool) : CompilerOptions :=
  if noCache then { o with incremental := false, cacheDir := "/dev/null" }
  else if Path.isAbsolute o.cacheDir then o
  else { o with cacheDir := Path.within root o.cacheDir }

/-- The options of a project. A compiler that complains about its configuration has refused it:
the first complaint says why, or the last one when it gave up. -/
def load (config : Config) (noCache : Bool) (parsed : ParsedOptions) :
    Except Failure (CompilerOptions × Entry) :=
  let complaints := Text.trim parsed.complaints
  let refuse (reason : Text) :=
    Except.error (.fault (.optionsRejected reason config.compilerConfig))
  match parsed.exitStatus with
  | some status =>
    refuse (if complaints.isEmpty then "exit status " ++ status else Text.lastLine complaints)
  | none =>
    if complaints.isEmpty then
      let options := parsed.options.withReadableMessages.withCache config.root noCache
      .ok (options, ⟨.compiler, .debug,
        "mypy options loaded from " ++ config.compilerConfig ++ " (cache: ".toList
          ++ options.cacheDir ++ [')']⟩)
    else refuse (Text.firstLine complaints)

/-- The files and directories in which source files are looked for. -/
def targets (o : CompilerOptions) (root : Text) : List Text :=
  match o.files with
  | none | some [] => [Path.tidy root]
  | some files => files.map (Path.within root)

end CompilerOptions

inductive BuildOutcome
  /-- With messages and the files that were loaded. -/
  | finished (lines loaded : List Text)
  /-- At an error in a module that stops all else, with the messages so far. -/
  | blocked (lines : List Text) (module : Text)
  /-- Without any answer. -/
  | failed (failure : Failure)

/-- What a session asks of the world besides the disk. `σ` is what its answers depend on. -/
structure Tools (σ : Type) where
  /-- The working directory, an absolute path. -/
  directory : Text := ['/']
  /-- The source files among some targets; whether a directory may hold none is up to the
  caller. -/
  discover : Disk → List Text → Bool → σ → Except Text (List Source) × σ
  /-- The outcome of building sources. -/
  build : List Source → σ → BuildOutcome × σ
  /-- The reading of a clock that only grows. A real clock gives doubles; one that was put in its
  place can give whole numbers as well. -/
  tick : σ → Number × σ
  /-- What is learnt from a command of version control that is run in a directory. That of a real
  one is the reply of a `CommandResult`. -/
  versionControl : Text → List Text → σ → VersionControlReply × σ

end Recheck

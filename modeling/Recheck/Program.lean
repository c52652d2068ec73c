import Recheck.Diagnostic.Listing

/-!
# Programs

A program is one build of the project: its diagnostics and the files that it holds.
-/

namespace Recheck

/-- A source file that goes into a build, with its text where the session knows it. -/
structure Source where
  path : Option Text
  module : Text
  text : Option Text := none
  deriving DecidableEq, Repr

structure Program where
  diagnostics : List Diagnostic
  files : List Text
  deriving DecidableEq, Repr

namespace Program

/-- The program with a listing of messages and the files that were loaded, by a compiler that ran in
a directory. -/
def ofLines (directory : Text) (lines files : List Text) : Except Failure Program := do
  let diagnostics ← Diagnostic.ofLines directory lines
  return { diagnostics, files := (files.map (Path.normalize directory)).eraseDups }

def contains (directory : Text) (program : Program) (path : Text) : Bool :=
  program.files.contains (Path.normalize directory path)

def about (directory : Text) (program : Program) (path : Text) :
    Except Failure (List Diagnostic) :=
  let path := Path.normalize directory path
  if program.files.contains path then
    .ok (program.diagnostics.filter fun d => d.file == some path)
  else .error (.fault (.notInProgram path))

/-- The errors of a file that keep it from parsing. -/
def syntacticErrors (directory : Text) (program : Program) (path : Text) :
    Except Failure (List Diagnostic) :=
  (program.about directory path).map (·.filter (·.syntactic))

/-- The other diagnostics of a file. -/
def semanticErrors (directory : Text) (program : Program) (path : Text) :
    Except Failure (List Diagnostic) :=
  (program.about directory path).map (·.filter (!·.syntactic))

/-- Parts of paths that mark files of dependencies and of the language itself. -/
def libraryMarkers : List Text := ["site-packages", "dist-packages", "typeshed", "node_modules"]

/-- Whether a file is a source of the project at the root, and neither part of a library nor
a file of declarations only. -/
def isOwnSource (root path : Text) : Bool :=
  !(libraryMarkers.any fun marker => Text.has marker path)
    && !List.isSuffixOf ['.', 'p', 'y', 'i'] path
    && List.isPrefixOf (Text.dropTrailing (· == '/') root ++ ['/']) path

end Program

end Recheck

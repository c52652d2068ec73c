import Recheck.Text

/-!
# Paths

A path is a text; its parts are the names between slashes. Two leading slashes, and no other
number above one, are kept apart from a single one. A relative path counts from a working directory.

Nothing here looks at a disk: `..` removes the name before it.
-/

namespace Recheck.Path

/-- The names of a path, without empty ones and without `.`. -/
def parts (path : Text) : List Text :=
  (List.splitOn '/' path).filter fun name => name ≠ [] ∧ name ≠ ['.']

/-- The leading slashes that count: none, one, or exactly two. -/
def lead : Text → Text
  | '/' :: '/' :: '/' :: _ => ['/']
  | '/' :: '/' :: _ => ['/', '/']
  | '/' :: _ => ['/']
  | _ => []

def isAbsolute (path : Text) : Bool := !(lead path).isEmpty

def glue (names : List Text) : Text := List.intercalate ['/'] names

/-- The parent directory's name. -/
def up : Text := ['.', '.']

/-- The names that are left when each `..` removes the name before it; `above` holds the names
so far, the nearest first. At the root `..` has no effect. -/
def climb (above : List Text) : List Text → List Text
  | [] => above.reverse
  | name :: names => if name = up then climb above.tail names else climb (name :: above) names

/-- The names of an absolute path, below the root. -/
def names (path : Text) : List Text := climb [] (parts path)

/-- The absolute path with its names, after `slashes`. -/
def absolute (slashes : Text) (names : List Text) : Text := slashes ++ glue names

/-- An absolute path without `.`, `..` and repeated slashes. -/
def clean (path : Text) : Text :=
  absolute (if isAbsolute path then lead path else ['/']) (names path)

/-- The path with a way behind it, which starts anew where it has a slash in front. -/
def join (path way : Text) : Text :=
  if isAbsolute way then way
  else if path.getLast? = some '/' then path ++ way
  else path ++ ['/'] ++ way

/-- The absolute path that a path stands for in a working directory. -/
def normalize (directory path : Text) : Text := clean (join directory path)

/-- The path without `.`, repeated slashes and a slash at the end; `..` stays. -/
def tidy (path : Text) : Text :=
  let t := lead path ++ glue (parts path)
  if t.isEmpty then ['.'] else t

/-- The path that `path` names from the directory `base`. -/
def within (base path : Text) : Text :=
  if isAbsolute path then tidy path
  else
    let t := lead base ++ glue (parts base ++ parts path)
    if t.isEmpty then ['.'] else t

/-- The names after the ones that both lists start with, from each list. -/
def afterCommon : List Text → List Text → List Text × List Text
  | a :: as, b :: bs => if a = b then afterCommon as bs else (a :: as, b :: bs)
  | as, bs => (as, bs)

/-- The way from `start` to `path`, both in a working directory: up to where they part, then
down. -/
def relative (directory path start : Text) : Text :=
  let (down, back) := afterCommon (names (join directory path)) (names (join directory start))
  let way := back.map (fun _ => up) ++ down
  if way.isEmpty then ['.'] else glue way

def fileName (path : Text) : Text := (parts path).getLast?.getD []

/-- A file name without the last dot and what follows it, unless the dot comes first or last. -/
def stem (name : Text) : Text :=
  let after := name.reverse.takeWhile (· ≠ '.')
  let before := name.take (name.length - after.length - 1)
  if after.isEmpty || before.isEmpty then name else before

end Recheck.Path

import Recheck.Disk.Lookup

/-!
# Walking a directory

A walk lists what stands below a directory: in each directory first everything that is not
a directory, then its directories one after the other, both in the order of their names. A
link to a directory counts as a directory and is not entered.
-/

namespace Recheck

mutual

/-- The names, from the top of the walk, of all that is not a directory. `leads` says of which
places a link leads to a directory, `skip` which directories are left out. -/
def Node.listing (leads : List Text → Bool) (skip : Text → Bool) (here : List Text) :
    Node → List (List Text)
  | .directory entries =>
    (entries.filterMap fun (name, node) =>
      if node.isDirectory || leads (here ++ [name]) then none else some (here ++ [name]))
      ++ Node.listings leads skip here entries
  | _ => []

/-- The listings of the directories among the entries. -/
def Node.listings (leads : List Text → Bool) (skip : Text → Bool) (here : List Text) :
    List (Text × Node) → List (List Text)
  | [] => []
  | (name, node) :: entries =>
    (if skip name then [] else node.listing leads skip (here ++ [name]))
      ++ Node.listings leads skip here entries

end

namespace Disk

/-- Whether the place below `top` holds a link that leads to a directory. -/
def leadsToDirectory (disk : Disk) (top names : List Text) : Bool :=
  match disk.at? (top ++ names) with
  | some (.link _) => disk.isDirectory (Path.absolute ['/'] (top ++ names))
  | _ => false

/-- The walk below the directory that a path names, as names from there; nothing for a path
that names no directory. -/
def walk (disk : Disk) (skip : Text → Bool) (path : Text) : List (List Text) :=
  match disk.find? path with
  | none => []
  | some top =>
    match disk.at? top with
    | some node => node.listing (disk.leadsToDirectory top) skip []
    | none => []

end Disk

end Recheck

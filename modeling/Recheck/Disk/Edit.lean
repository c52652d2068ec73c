import Recheck.Disk.Lookup

/-!
# Editing a disk

Changes to the tree, by path. Writing follows links, so the target of a link changes and not
the link; removing takes away the link itself.
-/

namespace Recheck.Disk

/-- The names of the place at which a path ends, links among its directories followed. -/
def parentPlace (disk : Disk) (path : Text) : Option (List Text) :=
  match (Path.parts path).getLast? with
  | none => none
  | some name =>
    ((disk.withoutLinks (Path.parts path).dropLast).map (· ++ [name])).toOption

/-- The names of the place that a path stands for, links followed. -/
def place (disk : Disk) (path : Text) : Option (List Text) :=
  (disk.withoutLinks (Path.parts path)).toOption

def write (disk : Disk) (path : Text) (bytes : ByteArray) (changed : Int) : Disk :=
  match disk.place path with
  | some names =>
    if (disk.at? names).any Node.isDirectory then disk else disk.put names (.file bytes changed)
  | none => disk

def link (disk : Disk) (path target : Text) : Disk :=
  match disk.parentPlace path with
  | some names => disk.put names (.link target)
  | none => disk

def makeDirectory (disk : Disk) (path : Text) : Disk :=
  match disk.place path with
  | some names => if (disk.at? names).isSome then disk else disk.put names (.directory [])
  | none => disk

/-- The disk with a directory at each of the places that the names pass through, read one after
the other: a directory is made also where the way goes on with `..` from it. -/
def makeWay (disk : Disk) (names : List Text) : Disk :=
  (List.range names.length).foldl (fun disk n =>
    disk.makeDirectory (Path.absolute ['/'] (names.take (n + 1)))) disk

def touch (disk : Disk) (path : Text) (changed : Int) : Disk :=
  match disk.find? path with
  | some names =>
    match disk.at? names with
    | some (.file bytes _) => disk.put names (.file bytes changed)
    | _ => disk
  | none => disk

def remove (disk : Disk) (path : Text) : Disk :=
  match disk.parentPlace path with
  | some names =>
    if (disk.at? names).any Node.isDirectory then disk else disk.erase names
  | none => disk

/-- The disk without the directory at the path and all below it. -/
def removeTree (disk : Disk) (path : Text) : Disk :=
  match disk.parentPlace path with
  | some names => if (disk.at? names).any Node.isDirectory then disk.erase names else disk
  | none => disk

end Recheck.Disk

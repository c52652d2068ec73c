import Recheck.Path

/-!
# Disks

A disk is a tree of directories, files and links. The entries of a directory are in the order
of their names, so a tree has one form. Places on a disk are given by their names from the
root, and nothing in this module follows a link. Nobody is kept from reading a file or a
directory: there are no permissions.
-/

namespace Recheck

inductive Node
  /-- A file with its bytes and the time of its last change. -/
  | file (bytes : ByteArray) (changed : Int)
  /-- A link, with its target as it is written. -/
  | link (target : Text)
  | directory (entries : List (Text × Node))

structure Disk where
  entries : List (Text × Node) := []

namespace Node

def isDirectory : Node → Bool
  | directory _ => true
  | _ => false

def isFile : Node → Bool
  | file _ _ => true
  | _ => false

/-- The node at the end of the names, without following links. -/
def at? : List Text → Node → Option Node
  | [], node => some node
  | name :: names, directory entries => (entries.lookup name).bind (at? names)
  | _ :: _, _ => none

/-- The entries with the name set to a node, in the place that its name gives it. -/
def setEntry (name : Text) (node : Node) : List (Text × Node) → List (Text × Node)
  | [] => [(name, node)]
  | (other, old) :: entries =>
    if name = other then (name, node) :: entries
    else if name.before other then (name, node) :: (other, old) :: entries
    else (other, old) :: setEntry name node entries

/-- The node with another one put at the end of the names; missing directories are made, and
nothing is put below a node that is no directory. -/
def put : List Text → Node → Node → Node
  | [], new, _ => new
  | name :: names, new, directory entries =>
    let old := (entries.lookup name).getD (directory [])
    directory (setEntry name (put names new old) entries)
  | _ :: _, _, node => node

/-- The node without what stands at the end of the names. -/
def erase : List Text → Node → Node
  | [name], directory entries => directory (entries.filter (·.1 ≠ name))
  | name :: names, directory entries =>
    match entries.lookup name with
    | some old => directory (setEntry name (erase names old) entries)
    | none => directory entries
  | _, node => node

mutual

def linkCount : Node → Nat
  | file _ _ => 0
  | link _ => 1
  | directory entries => linkCounts entries

def linkCounts : List (Text × Node) → Nat
  | [] => 0
  | (_, node) :: entries => linkCount node + linkCounts entries

end

end Node

namespace Disk

def root (disk : Disk) : Node := .directory disk.entries

/-- The node at the end of the names from the root, without following links. -/
def at? (disk : Disk) (names : List Text) : Option Node := Node.at? names disk.root

def ofRoot : Node → Disk
  | .directory entries => ⟨entries⟩
  | _ => ⟨[]⟩

def put (disk : Disk) (names : List Text) (node : Node) : Disk :=
  ofRoot (Node.put names node disk.root)

def erase (disk : Disk) (names : List Text) : Disk := ofRoot (Node.erase names disk.root)

end Disk

end Recheck

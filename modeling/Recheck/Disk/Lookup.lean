import Recheck.Disk
import Recheck.Text.Utf8

/-!
# Looking paths up

Two readings of a path on a disk. *Locating* is what opening a file does: every name must
exist, all but the last must be directories, and only so many links may stand on the way. Names
and paths have a greatest length.
*Resolving* gives the path without links: it follows all that exist, takes `..` from where they
lead, and keeps names that do not exist. A link that leads back to itself is not followed.
A relative path is looked up from the root: what counts from another directory is made absolute
before.
-/

namespace Recheck.Disk

inductive Obstacle
  /-- A name does not exist, or stands for no directory where one is needed. -/
  | missing
  /-- More links stand on the way than are followed. -/
  | circle
  /-- The path, or a name that is looked for, has more bytes than one may have. -/
  | tooLong
  deriving DecidableEq, Repr

def maxNameBytes : Nat := 255

def maxPathBytes : Nat := 4095

/-- The place that names lead to from a directory, where `beyond` takes the way over at a link,
from the directory and with the names of its target before the others. An empty name and `.` stay
in place. -/
def locateVia (disk : Disk) (beyond : List Text → List Text → Except Obstacle (List Text))
    (here : List Text) : List Text → Except Obstacle (List Text)
  | [] => .ok here
  | name :: names =>
    if !((disk.at? here).any Node.isDirectory) then .error .missing
    else if name = [] ∨ name = ['.'] then locateVia disk beyond here names
    else if name = Path.up then locateVia disk beyond here.dropLast names
    else if maxNameBytes < Text.byteCount name then .error .tooLong
    else
      match disk.at? (here ++ [name]) with
      | none => .error .missing
      | some (.link target) =>
        beyond (if Path.isAbsolute target then [] else here) (List.splitOn '/' target ++ names)
      | some _ => locateVia disk beyond (here ++ [name]) names

/-- The place that names lead to from a directory, with at most so many links on the way. -/
def locate (disk : Disk) : Nat → List Text → List Text → Except Obstacle (List Text)
  | 0 => disk.locateVia fun _ _ => .error .circle
  | links + 1 => disk.locateVia (locate disk links)

def maxLinks : Nat := 40

def placeOf (disk : Disk) (path : Text) : Except Obstacle (List Text) :=
  if maxPathBytes < Text.byteCount path then .error .tooLong
  else disk.locate maxLinks [] (List.splitOn '/' path)

/-- Whether a path is too long to be looked up. One with a NUL character is not looked up at
all. -/
def isTooLong (disk : Disk) (path : Text) : Bool :=
  !path.contains '\x00' && match disk.placeOf path with
    | .error .tooLong => true
    | _ => false

/-- The place that a path names, if something stands there; the empty path names nothing. -/
def find? (disk : Disk) (path : Text) : Option (List Text) :=
  if path.isEmpty then none
  else (disk.placeOf path).toOption.filter fun names => (disk.at? names).isSome

def node? (disk : Disk) (path : Text) : Option Node := (disk.find? path).bind disk.at?

def isFile (disk : Disk) (path : Text) : Bool := (disk.node? path).any Node.isFile

def isDirectory (disk : Disk) (path : Text) : Bool := (disk.node? path).any Node.isDirectory

/-- Whether a path names anything. -/
def exists? (disk : Disk) (path : Text) : Bool := (disk.node? path).isSome

def bytes? (disk : Disk) (path : Text) : Option ByteArray :=
  match disk.node? path with
  | some (.file bytes _) => some bytes
  | _ => none

/-- The text of the file that a path names, if there is one and it can be read as text. -/
def text? (disk : Disk) (path : Text) : Option Text := (disk.bytes? path).bind Text.ofBytes?

def changed? (disk : Disk) (path : Text) : Option Int :=
  match disk.node? path with
  | some (.file _ changed) => some changed
  | _ => none

/-- The places of the links that were met, with the places where they lead; a link that is still
being followed has none. What was met last comes first. -/
abbrev Trail := List (List Text × Option (List Text))

/-- The names that a path stands for from a directory, where `inside` tells the names that the
target of a link stands for, or the path of a link that leads back to itself with the way behind
it. A link that was followed before is not followed again: it leads to the same place. -/
def followVia (disk : Disk)
    (inside : Trail → List Text → List Text → Except Text (Trail × List Text))
    (trail : Trail) (here : List Text) : List Text → Except Text (Trail × List Text)
  | [] => .ok (trail, here)
  | name :: names =>
    if name = [] ∨ name = ['.'] then followVia disk inside trail here names
    else if name = Path.up then followVia disk inside trail here.dropLast names
    else
      let link := here ++ [name]
      match disk.at? link with
      | some (.link target) =>
        match trail.lookup link with
        | some none => .error (Path.join (Path.absolute ['/'] link) (Path.glue names))
        | some (some there) => followVia disk inside trail there names
        | none =>
          match inside ((link, none) :: trail) (if Path.isAbsolute target then [] else here)
              (List.splitOn '/' target) with
          | .error stuck => .error (Path.join stuck (Path.glue names))
          | .ok (trail, there) => followVia disk inside ((link, some there) :: trail) there names
      | _ => followVia disk inside trail link names

/-- The names that a path stands for from a directory, following links at most `depth` deep. -/
def follow (disk : Disk) :
    Nat → Trail → List Text → List Text → Except Text (Trail × List Text)
  | 0 => disk.followVia fun _ here names => .error (Path.absolute ['/'] (here ++ names))
  | depth + 1 => disk.followVia (follow disk depth)

/-- The names that the names of a path stand for, or the path at which its links lead back to
themselves. No more links than there are can be followed inside one another. -/
def withoutLinks (disk : Disk) (names : List Text) : Except Text (List Text) :=
  (disk.follow disk.root.linkCount [] [] names).map Prod.snd

/-- The path without links as far as they can be followed; from a link that leads back to
itself on, names stay as they are. -/
def pathWithoutLinks (disk : Disk) (path : Text) : Text :=
  match disk.withoutLinks (Path.parts path) with
  | .ok names => Path.absolute ['/'] names
  | .error stuck => Path.clean stuck

/-- The path without links, or the path at which its links run in a circle. -/
def resolve (disk : Disk) (path : Text) : Except Text Text :=
  let path := disk.pathWithoutLinks path
  match disk.placeOf path with
  | .error .circle => .error path
  | _ => .ok path

end Recheck.Disk

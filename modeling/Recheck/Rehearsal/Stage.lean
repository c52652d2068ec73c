import Recheck.Disk.Edit

/-!
# The disk of a rehearsal

Files are written at times that a counter gives, one second after the other, unless a time is
stated. The directories on the way to a file are made.
-/

namespace Recheck.Rehearsal

inductive Content
  | text (t : Text)
  | bytes (b : ByteArray)
  | link (target : Text)
  | directory

inductive Edit
  | write (path : Text) (content : Content) (changed : Option Int)
  | touch (path : Text) (changed : Int)
  | delete (path : Text)
  | deleteTree (path : Text)

/-- A disk with the counter of its writes. -/
structure Stage where
  disk : Disk := {}
  writes : Int := 1000

namespace Stage

def writeFile (s : Stage) (path : Text) (bytes : ByteArray) (changed : Option Int) : Stage :=
  let writes := s.writes + 1
  { disk := s.disk.write path bytes (changed.getD writes), writes }

/-- The stage after something was written at a path to which there is a way. -/
def put (s : Stage) (path : Text) (changed : Option Int) : Content → Stage
  | .text t => s.writeFile path (Text.toBytes t) changed
  | .bytes b => s.writeFile path b changed
  | .link target => { s with disk := s.disk.link path target }
  | .directory => { s with disk := s.disk.makeDirectory path }

def apply (s : Stage) : Edit → Stage
  | .write path content changed =>
    { s with disk := s.disk.makeWay (Path.parts path).dropLast }.put path changed content
  | .touch path changed => { s with disk := s.disk.touch path changed }
  | .delete path => { s with disk := s.disk.remove path }
  | .deleteTree path => { s with disk := s.disk.removeTree path }

/-- A stage with a directory and files in it, written one after the other. -/
def build (root : Text) (files : List (Text × Content)) : Stage :=
  (files.foldl (fun s (path, content) => s.apply (.write (Path.within root path) content none))
    { disk := ({} : Disk).makeDirectory root })

end Stage

end Recheck.Rehearsal

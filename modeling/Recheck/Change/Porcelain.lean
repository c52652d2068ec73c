import Recheck.Text

/-!
# Status listings

A status listing is a sequence of records that end in NUL. A record is two characters of status,
a space and a path; a rename or a copy is followed by a record with the path before it. Entries
are written as records, and the paths of a listing are read back.
-/

namespace Recheck.Change

/-- Whether a status says that the next record is an earlier path. -/
def hasEarlierPath (status : Text) : Bool := status.contains 'R' || status.contains 'C'

/-- A file that changed: how it changed in the index and in the working tree, its path, and the
path that it had before a rename or a copy. -/
structure StatusEntry where
  index : Char
  tree : Char
  path : Text
  earlier : Text := []
  deriving DecidableEq, Repr

namespace StatusEntry

def status (e : StatusEntry) : Text := [e.index, e.tree]

def records (e : StatusEntry) : List Text :=
  (e.status ++ ' ' :: e.path) :: if hasEarlierPath e.status then [e.earlier] else []

def listing (entries : List StatusEntry) : Text :=
  (entries.flatMap records).flatMap (· ++ ['\x00'])

end StatusEntry

/-- The paths of the records; records without a path are passed over. -/
def recordPaths : List Text → List Text
  | [] => []
  | record :: records =>
    if record.length < 4 then recordPaths records
    else if hasEarlierPath (record.take 2) then
      record.drop 3 :: match records with
        | [] => []
        | _ :: records => recordPaths records
    else record.drop 3 :: recordPaths records

/-- The paths of a status listing, each once, in its order. -/
def paths (listing : Text) : List Text := (recordPaths (List.splitOn '\x00' listing)).eraseDups

/-- The paths that end in one of the extensions. -/
def withExtension (extensions paths : List Text) : List Text :=
  paths.filter fun path => extensions.any fun extension => extension.isSuffixOf path

end Recheck.Change

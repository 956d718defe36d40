import Lexis.Command.Surroundings

/-!
# File trees

A file tree is a finite set of directories and files below the directory in which a command runs.
Outside of it nothing is known except that the directories above exist, and a few places of the
system. A path is followed one name at a time, and every name but the last has to lead to a directory,
also before `..`. Names and paths have a greatest length, and no null character stands in a path.
-/

namespace Lexis

/-- A directory, a file, or a device that takes everything and keeps nothing. -/
inductive Node
  | directory
  | file (bytes : List UInt8)
  | device
  deriving DecidableEq, Repr

/-- The nodes below a directory, each with the names that lead to it. The directories on the way to a
node exist without being listed. -/
abbrev FileTree := List (List String × Node)

namespace FileTree

/-- Where a path has led so far: below the directory of the command, above it, below the root of the
system, or somewhere unknown. -/
inductive Place
  | inside (names : List String)
  | above
  | system (names : List String)
  | nowhere
  deriving DecidableEq, Repr

/-- What is found in a tree. -/
def find? (t : FileTree) (names : List String) : Option Node :=
  match List.find? (·.1 == names) t with
  | some e => some e.2
  | none =>
    if names.isEmpty || List.any t (fun e => names.isPrefixOf e.1) then some .directory else none

/-- The places that every system has. -/
def system : FileTree := [(["dev", "null"], .device), (["tmp"], .directory)]

/-- What is at a place of the tree. -/
def node? (t : FileTree) : Place → Option Node
  | .inside names => find? t names
  | .above => some .directory
  | .system names => find? system names
  | .nowhere => none

/-- The place that a name leads to from a place. -/
def Place.enter : Place → String → Place
  | .inside [], ".." => .above
  | .inside names, ".." => .inside names.dropLast
  | .inside names, n => .inside (names ++ [n])
  | .system names, ".." => .system names.dropLast
  | .system names, n => .system (names ++ [n])
  | .above, ".." => .above
  | _, _ => .nowhere

/-- The greatest number of bytes in a name. -/
def longestName : Nat := 255

/-- The greatest number of bytes in a path. -/
def longestPath : Nat := 4095

/-- Follows names from a place. -/
def follow (t : FileTree) (p : Place) : List String → Except Obstacle Place
  | [] => .ok p
  | n :: rest =>
    match t.node? p with
    | some .directory =>
      if longestName < n.utf8ByteSize then .error .nameTooLong else follow t (p.enter n) rest
    | some _ => .error .notDirectory
    | none => .error .notFound

/-- Follows a path. -/
def locate (t : FileTree) (p : Path) : Except Obstacle Place :=
  if p.names.any (·.toList.contains '\x00') then .error .nullCharacter
  else if longestPath < p.text.utf8ByteSize then .error .nameTooLong
  else follow t (if p.root = "" then .inside [] else .system []) p.names

/-- What is at a path. -/
def look (t : FileTree) (p : Path) : Entry :=
  match t.locate p with
  | .error .nameTooLong => .refused
  | .error _ => .missing
  | .ok place =>
    match t.node? place with
    | none => .missing
    | some .directory => .directory
    | some .device => .device
    | some (.file bytes) => .file bytes

/-- What stands in the way of writing a file at a path. -/
def obstacle (t : FileTree) (p : Path) : Option Obstacle :=
  match t.locate p with
  | .error o => some o
  | .ok place => if t.node? place = some .directory then some .isDirectory else none

/-- The tree with a file written at a path. -/
def write (t : FileTree) (p : Path) (bytes : List UInt8) : FileTree :=
  match t.locate p with
  | .ok (.inside names) => (names, .file bytes) :: List.filter (·.1 != names) t
  | _ => t

/-- The files of a tree that the tree before did not have, or not with the same bytes. -/
def changes (old new : FileTree) : List (List String × List UInt8) :=
  List.filterMap (fun e =>
    match e.2 with
    | .file bytes => if old.node? (.inside e.1) = some (.file bytes) then none else some (e.1, bytes)
    | _ => none) new

/-- The surroundings of a command that runs in a tree. The input file may be made unreadable, or
reading it may fail with the given words. -/
def surroundings (t : FileTree) (unreadable : Bool) (readFailure : Option String) : Surroundings where
  look := t.look
  readable _ := !unreadable
  readFailure _ := readFailure
  obstacle := t.obstacle

end FileTree

end Lexis

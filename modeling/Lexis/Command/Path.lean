/-!
# Paths

A path is a root and the names below it. Empty names and the name `.` say nothing and are left out;
`..` is kept, because what it means depends on the files. Two slashes in front are a root of their
own, and any other number of them is the root `/`.
-/

namespace Lexis

/-- A path: the root, which is empty for a relative one, and the names. -/
structure Path where
  root : String
  names : List String
  deriving DecidableEq, Repr

namespace Path

/-- The pieces of a text between slashes. -/
def pieces : List Char → List (List Char)
  | [] => [[]]
  | '/' :: rest => [] :: pieces rest
  | c :: rest => (pieces rest).modifyHead (c :: ·)

/-- The root that a text begins with. -/
def rootOf (cs : List Char) : String :=
  match (cs.takeWhile (· == '/')).length with
  | 0 => ""
  | 2 => "//"
  | _ => "/"

/-- The path that a text spells. -/
def ofString (s : String) : Path :=
  let names := (pieces s.toList).map String.ofList
  ⟨rootOf s.toList, names.filter fun n => n != "" && n != "."⟩

/-- The text of a path; the path without names is `.`, or its root. -/
def text (p : Path) : String :=
  if p.root = "" && p.names.isEmpty then "." else p.root ++ "/".intercalate p.names

/-- The path without its last name. -/
def parent (p : Path) : Path := ⟨p.root, p.names.dropLast⟩

/-- The path of a name below a path. -/
def child (p : Path) (name : String) : Path := ⟨p.root, p.names ++ [name]⟩

end Path

end Lexis

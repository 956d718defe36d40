import Lexis.Command.Path
import Lexis.Text.Quoted

/-!
# What a command finds around it

A command asks what is at a path, reads a file, and writes a file. `Surroundings` answers these
questions, so that what a command does is a function of its arguments and the answers.
-/

namespace Lexis

/-- What is at a path. A path with a name that is too long is refused. -/
inductive Entry
  | missing
  | directory
  | device
  | file (bytes : List UInt8)
  | refused
  deriving DecidableEq, Repr

/-- Why a file cannot be opened for writing. -/
inductive Obstacle
  | notFound | isDirectory | notDirectory | nameTooLong | nullCharacter
  deriving DecidableEq, Repr

/-- The number of an obstacle, its words and the path; a null character has words only. -/
def Obstacle.message (o : Obstacle) (path : String) : String :=
  match o with
  | .notFound => "[Errno 2] No such file or directory: " ++ Quoted.quote path
  | .isDirectory => "[Errno 21] Is a directory: " ++ Quoted.quote path
  | .notDirectory => "[Errno 20] Not a directory: " ++ Quoted.quote path
  | .nameTooLong => "[Errno 36] File name too long: " ++ Quoted.quote path
  | .nullCharacter => "embedded null byte"

/-- The answers that a command gets. -/
structure Surroundings where
  /-- What is at a path. -/
  look : Path → Entry
  /-- Whether the input file may be read. -/
  readable : Path → Bool
  /-- What goes wrong when the input file is read. -/
  readFailure : Path → Option String
  /-- What stands in the way of writing a file. -/
  obstacle : Path → Option Obstacle

end Lexis

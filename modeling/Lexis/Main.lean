import Lexis.Command.Run

/-!
# The command line

The outer layer: it looks at the files that the arguments name, runs the command, and carries out
what the run leaves.
-/

namespace Lexis.Shell

/-- The number of the error that reading a directory brings. -/
def directoryCode : UInt32 := 21

/-- What is at a path of the file system, and whether it may be read. -/
def observe (p : Path) : IO (Entry × Bool) := do
  try
    return (.file (← IO.FS.readBinFile p.text).toList, true)
  catch
    | .noFileOrDirectory .. => return (.missing, true)
    | .inappropriateType _ code _ => return (if code = directoryCode then .directory else .missing, true)
    | .permissionDenied .. => return (.file [], false)
    | _ => return (.directory, true)

/-- The surroundings that a table of observations gives. -/
def surroundings (seen : List (Path × Entry × Bool)) : Surroundings where
  look p := ((seen.find? (·.1 == p)).map (·.2.1)).getD .missing
  readable p := ((seen.find? (·.1 == p)).map (·.2.2)).getD true
  readFailure _ := none
  obstacle _ := none

/-- The paths that a run with the given arguments looks at. -/
def pathsOf (argv : List String) : List Path :=
  match Arguments.parse argv with
  | .ok a => [Path.ofString a.input, Options.configPath a]
  | .error _ => []

/-- Carries out what a run leaves, and answers its status. -/
def carryOut (o : Outcome) : IO UInt32 := do
  IO.print o.stdout
  IO.eprint o.stderr
  match o.written with
  | some (p, text) => IO.FS.writeFile p.text text
  | none => pure ()
  match o.ending with
  | .returned n | .exited n => return n.toUInt32
  | .crashed c =>
    IO.eprintln c.message
    return 1

end Lexis.Shell

/-- Runs the command with the given arguments. -/
def main (argv : List String) : IO UInt32 := do
  let seen ← (Lexis.Shell.pathsOf argv).mapM fun p => return (p, ← Lexis.Shell.observe p)
  Lexis.Shell.carryOut (Lexis.runCommand argv (Lexis.Shell.surroundings seen))

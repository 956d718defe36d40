import Lexis.Command.Help
import Lexis.Command.Options

/-!
# A run of the command

A run lexes one file and writes the listing of its tokens, to the output file if there is one and
else to standard output. It writes the listing only when the whole file has been lexed; everything
else it has to say goes to standard error.
-/

namespace Lexis

/-- How a run ends: with a status, before it has started, or not at all. -/
inductive Ending
  | returned (status : Nat)
  | exited (status : Nat)
  | crashed (crash : Crash)
  deriving DecidableEq, Repr

/-- What a run leaves: its ending, what it wrote to the two standard streams, and the file that it
wrote. -/
structure Outcome where
  ending : Ending
  stdout : String
  stderr : String
  written : Option (Path × String)
  deriving DecidableEq, Repr

namespace Outcome

/-- A run that only has something to say on standard error. -/
def silent (ending : Ending) (stderr : String) : Outcome := ⟨ending, "", stderr, none⟩

/-- A run that ends with a status and an error message. -/
def failed (status : Nat) (log message : String) : Outcome :=
  silent (.returned status) (log ++ "error: " ++ message ++ "\n")

end Outcome

namespace Options

/-- What is said about a failure of lexing the text of the input file. -/
def failureText (o : Options) (text : List Char) : Failure → String
  | .lexing e => (e.report (some text)).format o.input.text
  | .reading f => "error: " ++ f.message

/-- The listing in its place. -/
def deliver (o : Options) (s : Surroundings) (listing stderr : String) : Outcome :=
  match o.output with
  | none => ⟨.returned 0, listing, stderr, none⟩
  | some path =>
    match s.obstacle path with
    | some b => .silent (.crashed (.blocked b path)) stderr
    | none => ⟨.returned 0, "", stderr, some (path, listing)⟩

/-- Lexes the text of the input file. -/
def lexText (o : Options) (s : Surroundings) (text : List Char) : Outcome :=
  let run := TokenRun.ofText text
  let log := LogRecord.lines o.logLevel (LogRecord.ofRun run)
  match run.failure with
  | some e => .silent (.returned 1) (log ++ o.failureText text e ++ "\n")
  | none =>
    let count := LogRecord.lines o.logLevel [LogRecord.ofCount run.tokens.length o.input.text]
    let dump := if o.debug then Listing.dump text run.tokens else ""
    o.deliver s (Listing.render o.layout text run.tokens) (log ++ count ++ dump)

/-- Lexes the input file. -/
def lexFile (o : Options) (s : Surroundings) : Outcome :=
  match checkInput o.input s, s.look o.input with
  | .error c, _ => .silent (.crashed c) ""
  | .ok (some p), _ => .failed 1 "" (p.message o.input)
  | .ok none, .file bytes =>
    match s.readFailure o.input with
    | some m => .failed 1 (LogRecord.lines o.logLevel [LogRecord.readFailure]) m
    | none => o.lexText s (Latin.decode bytes)
  | .ok none, _ => .failed 1 "" (InputProblem.missing.message o.input)

end Options

/-- Runs the command. -/
def runCommand (argv : List String) (s : Surroundings) : Outcome :=
  match Arguments.parse argv with
  | .error .help => ⟨.exited 0, Help.text, "", none⟩
  | .error (.usage e) => .silent (.exited 2) (Help.complaint e)
  | .ok a =>
    match Options.resolve a s with
    | .error (.settings e) => .failed 2 "" e.message
    | .error (.crash c) => .silent (.crashed c) ""
    | .ok o => o.lexFile s

end Lexis

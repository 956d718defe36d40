import Lexis.Command.Arguments
import Lexis.Command.Surroundings
import Lexis.Config.Settings
import Lexis.Listing
import Lexis.Text.Utf8

/-!
# Options of a run

The options join the arguments with the settings of the configuration file. An argument can only turn
a switch on, and asking for a verbose run puts the level of the log below every level that a
configuration can ask for. The configuration is the file that is named, or else `sylan.toml` beside
the input; where there is no such file there are no settings. An empty name names no file.
-/

namespace Lexis

/-- The options of a run. -/
structure Options where
  input : Path
  output : Option Path
  layout : Listing.Layout
  debug : Bool
  logLevel : LogLevel
  deriving DecidableEq, Repr

/-- What stops a run without a status: a configuration that is no text or holds too long an integer,
or a path that cannot be used. -/
inductive Crash
  | notText (malformed : Utf8.Malformed)
  | tooManyDigits (count : Option Nat)
  | blocked (obstacle : Obstacle) (path : Path)
  deriving DecidableEq, Repr

/-- The crash in words. -/
def Crash.message : Crash → String
  | .notText m => m.message
  | .tooManyDigits n => Toml.digitsMessage n
  | .blocked o p => o.message p.text

/-- Why there are no options. -/
inductive OptionsError
  | settings (error : SettingsError)
  | crash (crash : Crash)
  deriving DecidableEq, Repr

/-- What is wrong with an input file. -/
inductive InputProblem
  | missing | notRegular | notReadable
  deriving DecidableEq, Repr

/-- The problem in words. -/
def InputProblem.message (p : InputProblem) (path : Path) : String :=
  (match p with
    | .missing => "path does not exist: '"
    | .notRegular => "file is not a regular file: '"
    | .notReadable => "file is not readable: '") ++ path.text ++ "'"

namespace Options

/-- The path that an argument names; an empty argument names none. -/
def namedPath (arg : Option String) : Option Path :=
  (arg.filter (· != "")).map Path.ofString

/-- The place of the configuration. -/
def configPath (a : Arguments) : Path :=
  (namedPath a.config).getD ((Path.ofString a.input).parent.child "sylan.toml")

/-- The settings of the configuration. -/
def settings (a : Arguments) (s : Surroundings) : Except OptionsError Settings :=
  match s.look (configPath a) with
  | .file bytes =>
    match Utf8.decode bytes with
    | .error m => .error (.crash (.notText m))
    | .ok text =>
      match Settings.ofText text with
      | .ok settings => .ok settings
      | .error (.tooManyDigits n) => .error (.crash (.tooManyDigits n))
      | .error e => .error (.settings e)
  | .refused => .error (.crash (.blocked .nameTooLong (configPath a)))
  | _ => .ok Settings.default

/-- The options that arguments and settings make. -/
def join (a : Arguments) (c : Settings) : Options where
  input := Path.ofString a.input
  output := namedPath a.output
  layout := ⟨a.skipComments || c.skipComments, a.positions || c.positions⟩
  debug := a.debug
  logLevel := if a.verbose then .debug else c.logLevel.getD .warning

/-- The options of a run. -/
def resolve (a : Arguments) (s : Surroundings) : Except OptionsError Options :=
  (settings a s).map (join a)

/-- What is wrong with the input file, if anything is. -/
def checkInput (path : Path) (s : Surroundings) : Except Crash (Option InputProblem) :=
  match s.look path with
  | .missing => .ok (some .missing)
  | .directory | .device => .ok (some .notRegular)
  | .file _ => .ok (if s.readable path then none else some .notReadable)
  | .refused => .error (.blocked .nameTooLong path)

end Options

end Lexis

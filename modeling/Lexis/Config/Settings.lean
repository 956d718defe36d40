import Lexis.Command.Log
import Lexis.Config.Toml.Document
import Lexis.Text.Upper

/-!
# Settings

The settings that a configuration can make. A switch counts only when it is a truth value in its
section, and anything else is passed over. The level of the log is the upper-case text of whatever
value stands there, and has to be the name of a level.
-/

namespace Lexis

/-- The settings of a configuration. -/
structure Settings where
  skipComments : Bool
  positions : Bool
  logLevel : Option LogLevel
  deriving DecidableEq, Repr

/-- What is wrong with a configuration. The number of digits of an integer that has too many is told
only when it was written in decimal digits. -/
inductive SettingsError
  | invalidFile (message : String)
  | invalidLevel (level : String)
  | tooManyDigits (count : Option Nat)
  deriving DecidableEq, Repr

/-- The error in words. -/
def SettingsError.message : SettingsError → String
  | .invalidFile m => "invalid config file: " ++ m
  | .invalidLevel l => "invalid log level in config: " ++ l
  | .tooManyDigits n => Toml.digitsMessage n

namespace Settings

/-- The settings of an empty configuration. -/
def default : Settings := ⟨false, false, none⟩

/-- The value of a key in a section; none if there is no such section. -/
def valueIn? (config : Toml.Table) (group key : String) : Option Toml.Value :=
  match config.get? group with
  | some (.table entries) => Toml.Table.get? entries key
  | _ => none

/-- The switch of a key in a section is on. -/
def isOn (config : Toml.Table) (group key : String) : Bool :=
  match valueIn? config group key with
  | some (.boolean b) => b
  | _ => false

/-- The level of the log, if the configuration has one. -/
def level? (config : Toml.Table) : Except SettingsError (Option LogLevel) :=
  match valueIn? config "logging" "level" with
  | none => .ok none
  | some v =>
    if v.isShort then
      let name := Upper.ofString v.display
      match LogLevel.ofName? name with
      | some l => .ok (some l)
      | none => .error (.invalidLevel name)
    else .error (.tooManyDigits none)

/-- The settings of a configuration. -/
def ofConfig (config : Toml.Table) : Except SettingsError Settings :=
  (level? config).map fun l =>
    ⟨isOn config "lexer" "skip_comments", isOn config "output" "positions", l⟩

/-- The settings of the text of a configuration. -/
def ofText (text : List Char) : Except SettingsError Settings :=
  match Toml.parse text with
  | .ok config => ofConfig config
  | .error (.problem m) => .error (.invalidFile m)
  | .error (.tooManyDigits n) => .error (.tooManyDigits (some n))

end Settings

end Lexis

import Lexis.Token.Text
import Lexis.TokenRun

/-!
# The log of a run

Log records have a level and are shown from a threshold on. What lexing logs follows from the run:
one record for each token, and one for a character that begins no operator.
-/

namespace Lexis

/-- The levels of log records, from the least to the most severe. -/
inductive LogLevel
  | debug | info | warning | error | critical
  deriving DecidableEq, Repr

namespace LogLevel

/-- Every level. -/
def all : List LogLevel := [.debug, .info, .warning, .error, .critical]

/-- The name of a level. -/
def name : LogLevel → String
  | .debug => "DEBUG"
  | .info => "INFO"
  | .warning => "WARNING"
  | .error => "ERROR"
  | .critical => "CRITICAL"

/-- The rank of a level. -/
def rank : LogLevel → Nat
  | .debug => 10
  | .info => 20
  | .warning => 30
  | .error => 40
  | .critical => 50

/-- The level with the given name. -/
def ofName? (name : String) : Option LogLevel := all.find? (·.name == name)

theorem ofName?_name (l : LogLevel) : ofName? l.name = some l := by cases l <;> rfl

end LogLevel

/-- A log record: its level, the part of the program that logs, and the text. -/
structure LogRecord where
  level : LogLevel
  origin : String
  text : String
  deriving DecidableEq, Repr

namespace LogRecord

/-- The line of a record. -/
def line (r : LogRecord) : String := r.level.name ++ " " ++ r.origin ++ ": " ++ r.text ++ "\n"

/-- The lines of the records that are at least as severe as the threshold. -/
def lines (threshold : LogLevel) (rs : List LogRecord) : String :=
  String.join ((rs.filter (threshold.rank ≤ ·.level.rank)).map line)

/-- What is logged about a token. -/
def ofToken (t : Position × Token) : LogRecord :=
  ⟨.debug, "sylan.lexer", "token " ++ t.2.text ++ " at offset " ++ toString t.1.offset⟩

/-- What is logged about a failure: only a character that begins no operator. -/
def ofFailure : Failure → List LogRecord
  | .lexing ⟨.unknownOperator c, p⟩ =>
    [⟨.debug, "sylan.lexer", "no operator starts with " ++ Quoted.quote (String.singleton c) ++
      " at offset " ++ toString p.offset⟩]
  | _ => []

/-- What is logged by a run. -/
def ofRun (r : TokenRun) : List LogRecord :=
  r.tokens.map ofToken ++ (r.failure.map ofFailure).getD []

/-- What is logged about a file that has been lexed. -/
def ofCount (count : Nat) (path : String) : LogRecord :=
  ⟨.info, "sylan.cli", "lexed " ++ toString count ++ " tokens from " ++ path⟩

/-- What is logged about a file that could not be read. -/
def readFailure : LogRecord := ⟨.debug, "sylan.cli", "read failure"⟩

end LogRecord

end Lexis

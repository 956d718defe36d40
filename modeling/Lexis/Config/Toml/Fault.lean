import Lexis.Config.Toml.Value

/-!
# Faults of TOML documents

A fault is found at a place in the document, which is told as a one-based line and column. Only LF
ends a line. A fault behind the last character is told to be at the end of the document.
-/

namespace Lexis.Toml

/-- What is wrong with a document. -/
inductive Fault
  | invalidStatement
  | statementNotEnded
  | invalidKeyStart
  | missingEquals
  | invalidValue
  | invalidDate
  | valueOverwritten
  | declaredTwice (key : Key)
  | namespaceRedefined (key : Key)
  | namespaceImmutable (key : Key)
  | tableHeaderNotClosed
  | arrayHeaderNotClosed
  | arrayNotClosed
  | inlineTableNotClosed
  | inlineKeyRepeated (key : String)
  | stringNotEnded
  | illegalCharacter (c : Char)
  | invalidCharacter (c : Char)
  | delimiterMissing (delimiter : String)
  | invalidEscape
  | invalidHex
  | notScalar
  | tooManyDigits (count : Nat)
  deriving DecidableEq, Repr

/-- What is said about an integer with too many digits. -/
def digitsMessage (count : Option Nat) : String :=
  "Exceeds the limit (" ++ toString mostDigits ++ " digits) for integer string conversion" ++
    (count.map fun n => ": value has " ++ toString n ++ " digits").getD "" ++
    "; use sys.set_int_max_str_digits() to increase the limit"

/-- The fault in words. -/
def Fault.message : Fault → String
  | .invalidStatement => "Invalid statement"
  | .statementNotEnded => "Expected newline or end of document after a statement"
  | .invalidKeyStart => "Invalid initial character for a key part"
  | .missingEquals => "Expected '=' after a key in a key/value pair"
  | .invalidValue => "Invalid value"
  | .invalidDate => "Invalid date or datetime"
  | .valueOverwritten => "Cannot overwrite a value"
  | .declaredTwice k => "Cannot declare " ++ Quoted.quoteSequence k ++ " twice"
  | .namespaceRedefined k => "Cannot redefine namespace " ++ Quoted.quoteSequence k
  | .namespaceImmutable k => "Cannot mutate immutable namespace " ++ Quoted.quoteSequence k
  | .tableHeaderNotClosed => "Expected ']' at the end of a table declaration"
  | .arrayHeaderNotClosed => "Expected ']]' at the end of an array declaration"
  | .arrayNotClosed => "Unclosed array"
  | .inlineTableNotClosed => "Unclosed inline table"
  | .inlineKeyRepeated k => "Duplicate inline table key " ++ Quoted.quote k
  | .stringNotEnded => "Unterminated string"
  | .illegalCharacter c => "Illegal character " ++ Quoted.quote (String.singleton c)
  | .invalidCharacter c => "Found invalid character " ++ Quoted.quote (String.singleton c)
  | .delimiterMissing d => "Expected " ++ Quoted.quote d
  | .invalidEscape => "Unescaped '\\' in a string"
  | .invalidHex => "Invalid hex value"
  | .notScalar => "Escaped character is not a Unicode scalar value"
  | .tooManyDigits n => digitsMessage (some n)

/-- A fault and the number of characters from its place to the end of the document. -/
structure Problem where
  fault : Fault
  remaining : Nat
  deriving DecidableEq, Repr

/-- The place of a problem in a document, in words. -/
def Problem.place (p : Problem) (document : List Char) : String :=
  if p.remaining = 0 then "end of document"
  else
    let before := document.take (document.length - p.remaining)
    let lineSoFar := before.reverse.takeWhile (· != '\n')
    "line " ++ toString (before.count '\n' + 1) ++ ", column " ++ toString (lineSoFar.length + 1)

/-- What is said about a problem. -/
def Problem.message (p : Problem) (document : List Char) : String :=
  p.fault.message ++ " (at " ++ p.place document ++ ")"

/-- Why a document has no table: it has a problem, or an integer in it has too many digits. -/
inductive Refusal
  | problem (message : String)
  | tooManyDigits (count : Nat)
  deriving DecidableEq, Repr

/-- The problem as it is told about a document. -/
def Problem.refusal (p : Problem) (document : List Char) : Refusal :=
  match p.fault with
  | .tooManyDigits n => .tooManyDigits n
  | _ => .problem (p.message document)

end Lexis.Toml

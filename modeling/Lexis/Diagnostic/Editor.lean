import Lexis.Text.Latin
import Lexis.TokenRun

/-!
# Diagnostics for editors

A document in an editor may hold any character. It is lexed with a question mark for each character
that has no byte, so the lines and columns of the document are kept. The first error makes the only
diagnostic: a warning if the text ended inside a literal, and an error otherwise. Lines and characters
count from zero.
-/

namespace Lexis

/-- How grave a diagnostic is. -/
inductive Severity
  | error | warning
  deriving DecidableEq, Repr

/-- A place in a document, counted from zero. -/
structure EditorPosition where
  line : Int
  character : Int
  deriving DecidableEq, Repr

/-- A message about one character of a document. -/
structure Diagnostic where
  start : EditorPosition
  stop : EditorPosition
  message : String
  severity : Severity
  deriving DecidableEq, Repr

namespace Diagnostic

/-- The name of the program that reports. -/
def origin : String := "sylan"

/-- The diagnostic of the character at a one-based location. -/
def atLocation (l : Location) (message : String) (severity : Severity) : Diagnostic :=
  ⟨⟨l.line - 1, l.column - 1⟩, ⟨l.line - 1, l.column⟩, message, severity⟩

/-- The diagnostic of a lexical error in a text. -/
def ofLexError (text : List Char) (e : LexError) : Diagnostic :=
  let r := e.report (some text)
  match e.cause with
  | .noToken => atLocation r.location "unterminated literal at end of input" .warning
  | _ => atLocation r.location r.message .error

/-- The diagnostics of a document: none, or one. -/
def ofDocument (document : List Char) : List Diagnostic :=
  let text := Latin.replaceOthers document
  match tokenize text with
  | .error (.lexing e) => [ofLexError text e]
  | _ => []

end Diagnostic

/-- The diagnostics of the document with the given address, as they are sent to the editor. -/
structure Publication where
  uri : String
  diagnostics : List Diagnostic
  deriving DecidableEq, Repr

/-- What is published when a document has been opened or changed: the diagnostics of its whole
text, which replace those published before. -/
def Publication.ofDocument (uri : String) (document : List Char) : Publication :=
  ⟨uri, Diagnostic.ofDocument document⟩

end Lexis

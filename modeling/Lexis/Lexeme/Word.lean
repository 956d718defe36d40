import Lexis.Lexeme.Scan
import Lexis.Token.Basic

/-!
# Words

A word is a letter or an underscore, then letters and digits. The two truth values and the keywords
are words of their own kind, and every other word is an identifier.
-/

namespace Lexis

/-- The token that a word spells. -/
def Token.ofWord (word : String) : Token :=
  if word = "true" then .boolean true
  else if word = "false" then .boolean false
  else
    match Keyword.ofLexeme? word with
    | some k => .keyword k
    | none => .identifier word

namespace Scan

/-- Scans a word that opens with `c`. -/
def word (c : Char) : Scan Token := do
  skip 1
  let rest ← run CharClass.isWordPart
  return Token.ofWord (String.ofList (c :: rest))

end Scan

end Lexis

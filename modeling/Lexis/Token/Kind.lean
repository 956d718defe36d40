import Lexis.Token.Keyword
import Lexis.Token.Operator

/-!
# Kinds of tokens

A kind either carries a payload (a truth value, a text or a decimal) or stands for itself, as the
keywords and the operators do. Each kind has a canonical name, which token listings show and by
which a kind can be looked up, and a constant in capitals.
-/

namespace Lexis

/-- What a payload is made of. -/
inductive PayloadType
  | truth | text | decimal
  deriving DecidableEq, Repr

/-- The kind of a token. -/
inductive TokenKind
  | boolean | char | comment | identifier | interpolated | number | string | version
  | keyword (word : Keyword)
  | operator (sign : Operator)
  deriving DecidableEq, Repr

namespace TokenKind

/-- The type of the payload of a kind; none for the kinds that stand for themselves. -/
def payloadType? : TokenKind → Option PayloadType
  | .boolean => some .truth
  | .char | .comment | .identifier | .interpolated | .string => some .text
  | .number | .version => some .decimal
  | .keyword _ | .operator _ => none

/-- The kind carries a payload. -/
def isValued (k : TokenKind) : Bool := k.payloadType?.isSome

/-- The canonical name of a kind. -/
def name : TokenKind → String
  | .boolean => "BooleanToken"
  | .char => "CharToken"
  | .comment => "Comment"
  | .identifier => "Identifier"
  | .interpolated => "InterpolatedString"
  | .number => "NumberToken"
  | .string => "StringToken"
  | .version => "Version"
  | .keyword w => w.kindName
  | .operator o => o.kindName

/-- The constant that names a kind. -/
def constant : TokenKind → String
  | .boolean => "BOOLEAN"
  | .char => "CHAR"
  | .comment => "COMMENT"
  | .identifier => "IDENTIFIER"
  | .interpolated => "INTERPOLATED_STRING"
  | .number => "NUMBER"
  | .string => "STRING"
  | .version => "VERSION"
  | .keyword w => w.kindConstant
  | .operator o => o.constant

/-- The keywords in alphabetical order of their kinds: `Ignore` stands after `If`. -/
def keywordsByKind : List Keyword :=
  let others := Keyword.all.filter (· != .kwUnderscore)
  others.takeWhile (· != .kwImplements) ++ .kwUnderscore :: others.dropWhile (· != .kwImplements)

/-- Every kind: those with a payload, the keywords, the operators. -/
def all : List TokenKind :=
  [.boolean, .char, .comment, .identifier, .interpolated, .number, .string, .version] ++
    keywordsByKind.map .keyword ++ Operator.all.map .operator

/-- The kind with the given canonical name. -/
def ofName? (name : String) : Option TokenKind := all.find? (·.name == name)

/-- A kind shown with its constant and its name. -/
def describe (k : TokenKind) : String := "<TokenKind." ++ k.constant ++ ": '" ++ k.name ++ "'>"

end TokenKind

end Lexis

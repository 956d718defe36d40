import Lexis.Text.Quoted
import Lexis.Decimal.Text
import Lexis.Token.Kind

/-!
# Tokens

A token is a kind together with the payload that the kind asks for, so a token that exists is well
formed. `Token.make?` builds one from a kind and a value of any type, and says what is wrong when the
two do not go together.
-/

namespace Lexis

/-- A token of the language. -/
inductive Token
  | boolean (value : Bool)
  | char (value : Char)
  | comment (text : String)
  | identifier (name : String)
  | interpolated (text : String)
  | number (value : Decimal)
  | string (text : String)
  | version (value : Decimal)
  | keyword (word : Keyword)
  | operator (sign : Operator)
  deriving DecidableEq, Repr

/-- A value offered as a payload. Integers are never a payload. -/
inductive Payload
  | absent
  | truth (value : Bool)
  | text (value : String)
  | decimal (value : Decimal)
  | integer (value : Int)
  deriving DecidableEq, Repr

/-- Why a kind and a value make no token. -/
inductive TokenError
  | unknownKind (name : String)
  | unexpectedValue (kind : TokenKind) (value : Payload)
  | missingValue (kind : TokenKind)
  | wrongType (kind : TokenKind) (expected : PayloadType) (value : Payload)
  | notOneChar (text : String)
  deriving DecidableEq, Repr

/-- The name of a type of payloads. -/
def PayloadType.name : PayloadType → String
  | .truth => "bool"
  | .text => "str"
  | .decimal => "Decimal"

namespace Payload

/-- The name of the type of a value. -/
def typeName : Payload → String
  | .absent => "nothing"
  | .truth _ => PayloadType.truth.name
  | .text _ => PayloadType.text.name
  | .decimal _ => PayloadType.decimal.name
  | .integer _ => "int"

/-- A value shown on one line, with texts and decimals in quotes. -/
def describe : Payload → String
  | .absent => "None"
  | .truth b => if b then "True" else "False"
  | .text s => Quoted.quote s
  | .decimal d => "Decimal('" ++ d.text ++ "')"
  | .integer i => toString i

end Payload

namespace Token

/-- The kind of a token. -/
def kind : Token → TokenKind
  | .boolean _ => .boolean
  | .char _ => .char
  | .comment _ => .comment
  | .identifier _ => .identifier
  | .interpolated _ => .interpolated
  | .number _ => .number
  | .string _ => .string
  | .version _ => .version
  | .keyword w => .keyword w
  | .operator o => .operator o

/-- The payload of a token. -/
def payload : Token → Payload
  | .boolean b => .truth b
  | .char c => .text (String.singleton c)
  | .comment s | .identifier s | .interpolated s | .string s => .text s
  | .number d | .version d => .decimal d
  | .keyword _ | .operator _ => .absent

/-- The character token of a text, which has to be one character. -/
def ofChars? (s : String) : Except TokenError Token :=
  match s.toList with
  | [c] => .ok (.char c)
  | _ => .error (.notOneChar s)

/-- The token of a kind with a value. -/
def make? (k : TokenKind) (v : Payload) : Except TokenError Token :=
  match k, v with
  | .keyword w, .absent => .ok (.keyword w)
  | .operator o, .absent => .ok (.operator o)
  | .boolean, .truth b => .ok (.boolean b)
  | .char, .text s => ofChars? s
  | .comment, .text s => .ok (.comment s)
  | .identifier, .text s => .ok (.identifier s)
  | .interpolated, .text s => .ok (.interpolated s)
  | .string, .text s => .ok (.string s)
  | .number, .decimal d => .ok (.number d)
  | .version, .decimal d => .ok (.version d)
  | k, v =>
    match k.payloadType? with
    | none => .error (.unexpectedValue k v)
    | some expected =>
      if v = .absent then .error (.missingValue k) else .error (.wrongType k expected v)

/-- The token of the kind with the given name. -/
def makeNamed? (name : String) (v : Payload) : Except TokenError Token :=
  match TokenKind.ofName? name with
  | none => .error (.unknownKind name)
  | some k => make? k v

/-- A token is built from its own kind and payload. -/
theorem make?_kind_payload (t : Token) : make? t.kind t.payload = .ok t := by
  cases t with
  | char c => simp [kind, payload, make?, ofChars?]
  | _ => rfl

end Token

/-- What is said about a kind and a value that make no token. -/
def TokenError.message : TokenError → String
  | .unknownKind name => Quoted.quote name ++ " is not a valid TokenKind"
  | .unexpectedValue k v => k.name ++ " carries no value, got " ++ v.describe
  | .missingValue k => k.name ++ " requires a value"
  | .wrongType k expected v =>
    k.name ++ " value must be " ++ expected.name ++ ", got " ++ v.typeName
  | .notOneChar s => "CharToken value must be a single character, got " ++ Quoted.quote s

end Lexis

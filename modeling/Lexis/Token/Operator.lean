/-!
# Operators and punctuation

Every operator is spelled by one character or by two. Seven characters can begin an operator of two
characters, and each of them is also an operator on its own, so the longest match never has to look
further than one character ahead.
-/

namespace Lexis

/-- An operator or a punctuation mark. -/
inductive Operator
  | add | andAlso | assign | bind | bitwiseAnd | bitwiseNot | bitwiseOr | bitwiseXor | closeBrace
  | closeParentheses | closeSquareBracket | colon | divide | dot | equals | greaterThan
  | greaterThanOrEquals | lambdaArrow | lessThan | lessThanOrEquals | modulo | multiply | negation
  | notEquals | openBrace | openParentheses | openSquareBracket | orElse | shiftLeft | shiftRight
  | subItemSeparator | subtract
  deriving DecidableEq, Repr

namespace Operator

/-- Every operator, in alphabetical order of the constants. -/
def all : List Operator :=
  [.add, .andAlso, .assign, .bind, .bitwiseAnd, .bitwiseNot, .bitwiseOr, .bitwiseXor, .closeBrace,
   .closeParentheses, .closeSquareBracket, .colon, .divide, .dot, .equals, .greaterThan,
   .greaterThanOrEquals, .lambdaArrow, .lessThan, .lessThanOrEquals, .modulo, .multiply,
   .negation, .notEquals, .openBrace, .openParentheses, .openSquareBracket, .orElse, .shiftLeft,
   .shiftRight, .subItemSeparator, .subtract]

/-- The spelling of an operator. -/
def lexeme : Operator → String
  | .add => "+"
  | .andAlso => "&&"
  | .assign => "="
  | .bind => "<-"
  | .bitwiseAnd => "&"
  | .bitwiseNot => "~"
  | .bitwiseOr => "|"
  | .bitwiseXor => "^"
  | .closeBrace => "\x7d"
  | .closeParentheses => ")"
  | .closeSquareBracket => "]"
  | .colon => ":"
  | .divide => "/"
  | .dot => "."
  | .equals => "=="
  | .greaterThan => ">"
  | .greaterThanOrEquals => ">="
  | .lambdaArrow => "->"
  | .lessThan => "<"
  | .lessThanOrEquals => "<="
  | .modulo => "%"
  | .multiply => "*"
  | .negation => "!"
  | .notEquals => "!="
  | .openBrace => "\x7b"
  | .openParentheses => "("
  | .openSquareBracket => "["
  | .orElse => "||"
  | .shiftLeft => "<<"
  | .shiftRight => ">>"
  | .subItemSeparator => ","
  | .subtract => "-"

/-- The canonical name of the kind of token that an operator makes. -/
def kindName : Operator → String
  | .add => "Add"
  | .andAlso => "And"
  | .assign => "Assign"
  | .bind => "Bind"
  | .bitwiseAnd => "BitwiseAnd"
  | .bitwiseNot => "BitwiseNot"
  | .bitwiseOr => "BitwiseOr"
  | .bitwiseXor => "BitwiseXor"
  | .closeBrace => "CloseBrace"
  | .closeParentheses => "CloseParentheses"
  | .closeSquareBracket => "CloseSquareBracket"
  | .colon => "Colon"
  | .divide => "Divide"
  | .dot => "Dot"
  | .equals => "Equals"
  | .greaterThan => "GreaterThan"
  | .greaterThanOrEquals => "GreaterThanOrEquals"
  | .lambdaArrow => "LambdaArrow"
  | .lessThan => "LessThan"
  | .lessThanOrEquals => "LessThanOrEquals"
  | .modulo => "Modulo"
  | .multiply => "Multiply"
  | .negation => "Not"
  | .notEquals => "NotEquals"
  | .openBrace => "OpenBrace"
  | .openParentheses => "OpenParentheses"
  | .openSquareBracket => "OpenSquareBracket"
  | .orElse => "Or"
  | .shiftLeft => "ShiftLeft"
  | .shiftRight => "ShiftRight"
  | .subItemSeparator => "SubItemSeparator"
  | .subtract => "Subtract"

/-- The constant that names an operator. -/
def constant : Operator → String
  | .add => "ADD"
  | .andAlso => "AND"
  | .assign => "ASSIGN"
  | .bind => "BIND"
  | .bitwiseAnd => "BITWISE_AND"
  | .bitwiseNot => "BITWISE_NOT"
  | .bitwiseOr => "BITWISE_OR"
  | .bitwiseXor => "BITWISE_XOR"
  | .closeBrace => "CLOSE_BRACE"
  | .closeParentheses => "CLOSE_PARENTHESES"
  | .closeSquareBracket => "CLOSE_SQUARE_BRACKET"
  | .colon => "COLON"
  | .divide => "DIVIDE"
  | .dot => "DOT"
  | .equals => "EQUALS"
  | .greaterThan => "GREATER_THAN"
  | .greaterThanOrEquals => "GREATER_THAN_OR_EQUALS"
  | .lambdaArrow => "LAMBDA_ARROW"
  | .lessThan => "LESS_THAN"
  | .lessThanOrEquals => "LESS_THAN_OR_EQUALS"
  | .modulo => "MODULO"
  | .multiply => "MULTIPLY"
  | .negation => "NOT"
  | .notEquals => "NOT_EQUALS"
  | .openBrace => "OPEN_BRACE"
  | .openParentheses => "OPEN_PARENTHESES"
  | .openSquareBracket => "OPEN_SQUARE_BRACKET"
  | .orElse => "OR"
  | .shiftLeft => "SHIFT_LEFT"
  | .shiftRight => "SHIFT_RIGHT"
  | .subItemSeparator => "SUB_ITEM_SEPARATOR"
  | .subtract => "SUBTRACT"

/-- The operator that one character spells. -/
def single? : Char → Option Operator
  | '+' => some .add
  | '=' => some .assign
  | '&' => some .bitwiseAnd
  | '~' => some .bitwiseNot
  | '|' => some .bitwiseOr
  | '^' => some .bitwiseXor
  | '\x7d' => some .closeBrace
  | ')' => some .closeParentheses
  | ']' => some .closeSquareBracket
  | ':' => some .colon
  | '/' => some .divide
  | '.' => some .dot
  | '>' => some .greaterThan
  | '<' => some .lessThan
  | '%' => some .modulo
  | '*' => some .multiply
  | '!' => some .negation
  | '\x7b' => some .openBrace
  | '(' => some .openParentheses
  | '[' => some .openSquareBracket
  | ',' => some .subItemSeparator
  | '-' => some .subtract
  | _ => none

/-- The operator that two characters spell. -/
def pair? : Char → Char → Option Operator
  | '&', '&' => some .andAlso
  | '<', '-' => some .bind
  | '=', '=' => some .equals
  | '>', '=' => some .greaterThanOrEquals
  | '-', '>' => some .lambdaArrow
  | '<', '=' => some .lessThanOrEquals
  | '!', '=' => some .notEquals
  | '|', '|' => some .orElse
  | '<', '<' => some .shiftLeft
  | '>', '>' => some .shiftRight
  | _, _ => none

/-- The character begins an operator of two characters. -/
def opensPair (c : Char) : Bool :=
  c == '-' || c == '<' || c == '=' || c == '!' || c == '>' || c == '|' || c == '&'

/-! ### The tables agree with the lexemes -/

theorem mem_all (o : Operator) : o ∈ all := by cases o <;> decide

theorem opensPair_of_pair? {c d : Char} {o : Operator} (h : pair? c d = some o) :
    opensPair c = true := by
  unfold pair? at h
  split at h <;> cases h <;> rfl

theorem lexeme_of_single? {c : Char} {o : Operator} (h : single? c = some o) :
    o.lexeme.toList = [c] := by
  unfold single? at h
  split at h <;> cases h <;> rfl

theorem lexeme_of_pair? {c d : Char} {o : Operator} (h : pair? c d = some o) :
    o.lexeme.toList = [c, d] := by
  unfold pair? at h
  split at h <;> cases h <;> rfl

end Operator

end Lexis

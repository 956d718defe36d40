/-!
# Keywords

The reserved words. Each has one lexeme, a canonical kind name that token listings show, and a
constant name in capitals. The lone underscore is reserved too: it spells the kind `Ignore`.
-/

namespace Lexis

/-- A reserved word. -/
inductive Keyword
  | kwAbstract | kwActor | kwCase | kwClass | kwContinue | kwDefault | kwDo | kwElse | kwExtends
  | kwFor | kwGet | kwIf | kwImplements | kwImport | kwInterface | kwInternal | kwOverride
  | kwPackage | kwPublic | kwReceive | kwSelect | kwSuper | kwSwitch | kwThrow | kwTimeout
  | kwUnderscore | kwVar
  deriving DecidableEq, Repr

namespace Keyword

/-- Every keyword, in alphabetical order of the constants. -/
def all : List Keyword :=
  [.kwAbstract, .kwActor, .kwCase, .kwClass, .kwContinue, .kwDefault, .kwDo, .kwElse, .kwExtends,
   .kwFor, .kwGet, .kwIf, .kwImplements, .kwImport, .kwInterface, .kwInternal, .kwOverride,
   .kwPackage, .kwPublic, .kwReceive, .kwSelect, .kwSuper, .kwSwitch, .kwThrow, .kwTimeout,
   .kwUnderscore, .kwVar]

/-- The spelling of a keyword. -/
def lexeme : Keyword → String
  | .kwAbstract => "abstract"
  | .kwActor => "actor"
  | .kwCase => "case"
  | .kwClass => "class"
  | .kwContinue => "continue"
  | .kwDefault => "default"
  | .kwDo => "do"
  | .kwElse => "else"
  | .kwExtends => "extends"
  | .kwFor => "for"
  | .kwGet => "get"
  | .kwIf => "if"
  | .kwImplements => "implements"
  | .kwImport => "import"
  | .kwInterface => "interface"
  | .kwInternal => "internal"
  | .kwOverride => "override"
  | .kwPackage => "package"
  | .kwPublic => "public"
  | .kwReceive => "receive"
  | .kwSelect => "select"
  | .kwSuper => "super"
  | .kwSwitch => "switch"
  | .kwThrow => "throw"
  | .kwTimeout => "timeout"
  | .kwUnderscore => "_"
  | .kwVar => "var"

/-- The canonical name of the kind of token that a keyword makes. -/
def kindName : Keyword → String
  | .kwAbstract => "Abstract"
  | .kwActor => "Actor"
  | .kwCase => "Case"
  | .kwClass => "Class"
  | .kwContinue => "Continue"
  | .kwDefault => "Default"
  | .kwDo => "Do"
  | .kwElse => "Else"
  | .kwExtends => "Extends"
  | .kwFor => "For"
  | .kwGet => "Get"
  | .kwIf => "If"
  | .kwImplements => "Implements"
  | .kwImport => "Import"
  | .kwInterface => "Interface"
  | .kwInternal => "Internal"
  | .kwOverride => "OverrideToken"
  | .kwPackage => "Package"
  | .kwPublic => "Public"
  | .kwReceive => "Receive"
  | .kwSelect => "Select"
  | .kwSuper => "Super"
  | .kwSwitch => "Switch"
  | .kwThrow => "Throw"
  | .kwTimeout => "Timeout"
  | .kwUnderscore => "Ignore"
  | .kwVar => "Var"

/-- The constant that names a keyword. -/
def constant : Keyword → String
  | .kwAbstract => "ABSTRACT"
  | .kwActor => "ACTOR"
  | .kwCase => "CASE"
  | .kwClass => "CLASS"
  | .kwContinue => "CONTINUE"
  | .kwDefault => "DEFAULT"
  | .kwDo => "DO"
  | .kwElse => "ELSE"
  | .kwExtends => "EXTENDS"
  | .kwFor => "FOR"
  | .kwGet => "GET"
  | .kwIf => "IF"
  | .kwImplements => "IMPLEMENTS"
  | .kwImport => "IMPORT"
  | .kwInterface => "INTERFACE"
  | .kwInternal => "INTERNAL"
  | .kwOverride => "OVERRIDE"
  | .kwPackage => "PACKAGE"
  | .kwPublic => "PUBLIC"
  | .kwReceive => "RECEIVE"
  | .kwSelect => "SELECT"
  | .kwSuper => "SUPER"
  | .kwSwitch => "SWITCH"
  | .kwThrow => "THROW"
  | .kwTimeout => "TIMEOUT"
  | .kwUnderscore => "UNDERSCORE"
  | .kwVar => "VAR"

/-- The constant that names the kind of token that a keyword makes. -/
def kindConstant : Keyword → String
  | .kwUnderscore => "IGNORE"
  | k => k.constant

/-- The keyword with the given lexeme; none for a plain word. -/
def ofLexeme? (word : String) : Option Keyword := all.find? (·.lexeme == word)

/-! ### The table is complete and unambiguous -/

theorem mem_all (k : Keyword) : k ∈ all := by cases k <;> decide

theorem lexeme_injective {k k' : Keyword} (h : k.lexeme = k'.lexeme) : k = k' := by
  have table : ∀ a ∈ all, ∀ b ∈ all, a.lexeme = b.lexeme → a = b := by decide
  exact table k (mem_all k) k' (mem_all k') h

/-- A word names a keyword exactly when it is the lexeme of that keyword. -/
theorem ofLexeme?_eq_some_iff {word : String} {k : Keyword} :
    ofLexeme? word = some k ↔ k.lexeme = word := by
  constructor
  · intro h
    simpa using List.find?_some h
  · rintro rfl
    cases h : ofLexeme? k.lexeme with
    | none =>
      have := List.find?_eq_none.1 h k (mem_all k)
      simp at this
    | some k' =>
      have : k'.lexeme = k.lexeme := by simpa using List.find?_some h
      rw [lexeme_injective this]

end Keyword

end Lexis

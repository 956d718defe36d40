import Lexis.Text.Digit
import Lexis.Text.Quoted

/-!
# Command-line arguments

An argument is an option, a plain text, or the separator `--`, behind which every argument is plain.
A long option may be shortened as long as it stays the only one, and may carry its value behind an
equals sign. Text behind a short option is its value, or more short options if it takes none; an
equals sign between the first of them and the text is passed over. What begins with a dash and is no
option is still plain when it is a negative number or holds a blank.

The first plain text is the input. The separator belongs to the input when it stands right before or
right after it. As an attached value the separator counts for nothing: the option then has no value.
-/

namespace Lexis

/-- The options of the command. -/
inductive Switch
  | help | output | config | skipComments | positions | debug | verbose
  deriving DecidableEq, Repr

namespace Switch

/-- The spellings of an option. -/
def spellings : Switch → List String
  | .help => ["-h", "--help"]
  | .output => ["-o", "--output"]
  | .config => ["--config"]
  | .skipComments => ["--skip-comments"]
  | .positions => ["--positions"]
  | .debug => ["--debug"]
  | .verbose => ["-v", "--verbose"]

/-- Every option, in the order of the help text. -/
def all : List Switch := [.help, .output, .config, .skipComments, .positions, .debug, .verbose]

/-- Every option with each of its spellings. -/
def table : List (Switch × String) := all.flatMap fun s => s.spellings.map (s, ·)

/-- The option takes a value. -/
def takesValue : Switch → Bool
  | .output | .config => true
  | _ => false

/-- The option with the given spelling. -/
def ofSpelling? (spelling : String) : Option Switch :=
  (table.find? (·.2 == spelling)).map (·.1)

/-- All spellings of an option, as messages name it. -/
def title (s : Switch) : String := "/".intercalate s.spellings

end Switch

/-- What is wrong with the arguments. -/
inductive UsageError
  | missingInput
  | unrecognized (arguments : List String)
  | valueMissing (option : Switch)
  | valueIgnored (option : Switch) (value : String)
  | ambiguous (argument : String) (candidates : List String)
  deriving DecidableEq, Repr

/-- The error in words. -/
def UsageError.message : UsageError → String
  | .missingInput => "the following arguments are required: input"
  | .unrecognized as => "unrecognized arguments: " ++ " ".intercalate as
  | .valueMissing o => "argument " ++ o.title ++ ": expected one argument"
  | .valueIgnored o v => "argument " ++ o.title ++ ": ignored explicit argument " ++ Quoted.quote v
  | .ambiguous a cs => "ambiguous option: " ++ a ++ " could match " ++ ", ".intercalate cs

/-- An argument by its role. An option may have a text attached to it. -/
inductive Argument
  | plain (text : String)
  | separator
  | option (switch : Switch) (long : Bool) (attached : Option (List Char))
  | unknown (text : String)
  deriving DecidableEq, Repr

namespace Argument

/-- The text before the first equals sign, and the text behind it if there is one. -/
def splitEquals (cs : List Char) : List Char × Option (List Char) :=
  match cs.dropWhile (· != '=') with
  | [] => (cs, none)
  | _ :: value => (cs.takeWhile (· != '='), some value)

/-- The text is a negative number, perhaps with one LF behind it. -/
def isNegativeNumber (cs : List Char) : Bool :=
  match cs with
  | '-' :: rest =>
    let body := if rest.getLast? = some '\n' then rest.dropLast else rest
    let whole := body.takeWhile Digit.isDecimal
    match body.dropWhile Digit.isDecimal with
    | [] => !whole.isEmpty
    | '.' :: fraction => !fraction.isEmpty && fraction.all Digit.isDecimal
    | _ => false
  | _ => false

/-- The spelling is a long one. -/
def isLong (spelling : List Char) : Bool := ['-', '-'].isPrefixOf spelling

/-- The options that a shortened or joined spelling can stand for, with their spellings. -/
def candidates (cs : List Char) : List (Argument × String) :=
  if isLong cs then
    let (start, value) := splitEquals cs
    (Switch.table.filter (start.isPrefixOf ·.2.toList)).map fun e =>
      (.option e.1 true value, e.2)
  else
    (Switch.table.filter (·.2.toList == cs.take 2)).map fun e =>
      (.option e.1 false (some (cs.drop 2)), e.2)

/-- An argument that begins with a dash and has more behind it, and is no option as it stands. -/
def classifyInexact (s : String) : Except UsageError Argument :=
  match candidates s.toList with
  | [] => .ok (if isNegativeNumber s.toList || ' ' ∈ s.toList then .plain s else .unknown s)
  | [c] => .ok c.1
  | cs => .error (.ambiguous s (cs.map (·.2)))

/-- The role of an argument that is not behind the separator. -/
def classify (s : String) : Except UsageError Argument :=
  let cs := s.toList
  if cs.head? != some '-' then .ok (.plain s)
  else
    match Switch.ofSpelling? s with
    | some o => .ok (.option o (isLong cs) none)
    | none =>
      if cs.length = 1 then .ok (.plain s)
      else
        let (start, value) := splitEquals cs
        match value, Switch.ofSpelling? (String.ofList start) with
        | some v, some o => .ok (.option o (isLong cs) (some v))
        | _, _ => classifyInexact s

/-- The roles of all arguments. -/
def classifyAll : List String → Except UsageError (List Argument)
  | [] => .ok []
  | "--" :: rest => .ok (.separator :: rest.map .plain)
  | s :: rest => do
    let a ← classify s
    return a :: (← classifyAll rest)

end Argument

/-- The options that one argument holds: those without a value, and the last one if it takes a value,
with the value if it is attached. -/
structure Cluster where
  plain : List Switch
  valued : Option (Switch × Option String)
  deriving DecidableEq, Repr

namespace Cluster

/-- A single option. -/
def single (s : Switch) : Cluster :=
  if s.takesValue then ⟨[], some (s, none)⟩ else ⟨[s], none⟩

/-- The options of a short spelling with text attached behind it. -/
def joined (s : Switch) : List Char → Except UsageError Cluster
  | [] => if s.takesValue then .ok ⟨[], some (s, some "")⟩ else .error (.valueIgnored s "")
  | c :: rest =>
    if s.takesValue then .ok ⟨[], some (s, some (String.ofList (c :: rest)))⟩
    else
      match Switch.ofSpelling? (String.ofList ['-', c]) with
      | none => .error (.valueIgnored s (String.ofList (c :: rest)))
      | some t =>
        let later := if rest.isEmpty then .ok (single t) else joined t rest
        later.map fun k => { k with plain := s :: k.plain }

/-- The options that an argument holds. -/
def ofOption (s : Switch) (long : Bool) : Option (List Char) → Except UsageError Cluster
  | none => .ok (single s)
  | some text =>
    if !long then joined s text
    else if s.takesValue then .ok ⟨[], some (s, some (String.ofList text))⟩
    else .error (.valueIgnored s (String.ofList text))

end Cluster

/-- The arguments of the command. -/
structure Arguments where
  input : String
  output : Option String
  config : Option String
  skipComments : Bool
  positions : Bool
  debug : Bool
  verbose : Bool
  deriving DecidableEq, Repr

/-- Why the command does not start. -/
inductive Stop
  | help
  | usage (error : UsageError)
  deriving DecidableEq, Repr

namespace Arguments

/-- The arguments read so far, and the texts that have no place. -/
structure Draft where
  input : Option String
  rest : Arguments
  extras : List String

/-- Nothing read yet. -/
def Draft.empty : Draft := ⟨none, ⟨"", none, none, false, false, false, false⟩, []⟩

/-- Turns on an option without a value. -/
def Draft.turnOn (d : Draft) : Switch → Except Stop Draft
  | .help => .error .help
  | .skipComments => .ok { d with rest := { d.rest with skipComments := true } }
  | .positions => .ok { d with rest := { d.rest with positions := true } }
  | .debug => .ok { d with rest := { d.rest with debug := true } }
  | .verbose => .ok { d with rest := { d.rest with verbose := true } }
  | .output | .config => .ok d

/-- Sets the value of an option; the separator takes the value away. -/
def Draft.setValue (d : Draft) (text : String) : Switch → Draft
  | .output => { d with rest := { d.rest with output := value } }
  | .config => { d with rest := { d.rest with config := value } }
  | _ => d
where
  /-- The value that a text is. -/
  value : Option String := if text = "--" then none else some text

/-- Leaves a text over. -/
def Draft.leave (d : Draft) (text : String) : Draft := { d with extras := d.extras ++ [text] }

/-- Takes a plain text: the first one is the input. -/
def Draft.take (d : Draft) (text : String) : Draft :=
  if d.input.isNone then { d with input := some text } else d.leave text

/-- Takes the options of a cluster, the value of the last one being known. -/
def Draft.apply (d : Draft) (k : Cluster) (value : Option (Switch × String)) : Except Stop Draft := do
  let d ← k.plain.foldlM Draft.turnOn d
  return (value.map fun v => d.setValue v.2 v.1).getD d

/-- Lifts a usage error. -/
def orStop {α : Type} : Except UsageError α → Except Stop α
  | .ok a => .ok a
  | .error e => .error (.usage e)

/-- Reads classified arguments from left to right. -/
def read : List Argument → Draft → Except Stop Draft
  | [], d => .ok d
  | .plain s :: .separator :: rest, d =>
    read rest (if d.input.isNone then d.take s else (d.leave s).leave "--")
  | .plain s :: rest, d => read rest (d.take s)
  | .separator :: .plain s :: rest, d =>
    read rest (if d.input.isNone then d.take s else (d.leave "--").leave s)
  | .separator :: rest, d => read rest (d.leave "--")
  | .unknown s :: rest, d => read rest (d.leave s)
  | .option s long attached :: rest, d => do
    let k ← orStop (Cluster.ofOption s long attached)
    match k.valued, rest with
    | some (o, none), .plain v :: rest' => read rest' (← d.apply k (some (o, v)))
    | some (o, none), _ => .error (.usage (.valueMissing o))
    | some (o, some v), rest => read rest (← d.apply k (some (o, v)))
    | none, rest => read rest (← d.apply k none)

/-- The arguments that a draft makes. -/
def ofDraft (d : Draft) : Except Stop Arguments :=
  match d.input with
  | none => .error (.usage .missingInput)
  | some input =>
    if d.extras.isEmpty then .ok { d.rest with input }
    else .error (.usage (.unrecognized d.extras))

/-- Reads the arguments of the command. -/
def parse (argv : List String) : Except Stop Arguments := do
  ofDraft (← read (← orStop (Argument.classifyAll argv)) Draft.empty)

end Arguments

end Lexis

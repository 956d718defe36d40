import Lexis.Config.Toml.Number
import Lexis.Config.Toml.Reader

/-!
# Reading TOML: values and documents

A document is a list of statements: key/value pairs, headers of tables and headers of items of arrays
of tables. Each adds to the tables that were read before it. What may not be added is decided by two
marks on keys. A key is *closed* when its value was written in place, as an array or an inline
table; nothing behind it can be changed. A key is *declared* when a header names it, or when a
dotted key went through it and the section has ended; no table header can name it again.
-/

namespace Lexis.Toml

namespace Reader

/-- The table behind a key, empty if it is missing; none if a part of the key names something else.
Arrays are not entered. -/
def inlineNest? (key : Key) (t : Table) : Option Table :=
  match key with
  | [] => some t
  | k :: ks =>
    match t.get? k with
    | none => some []
    | some (.table inner) => inlineNest? ks inner
    | some _ => none

/-- A closed key is the key itself or leads to it. -/
def isClosed (closed : List Key) (key : Key) : Bool := closed.any (·.isPrefixOf key)

/-- Adds an entry to an inline table, of which the keys `closed` can take none. -/
def addInline (closed : List Key) (t : Table) (key : Key) (v : Value) : Reader Table := do
  if isClosed closed key then fail (.namespaceImmutable key)
  else
    let stem := key.getLast?.getD ""
    match inlineNest? key.dropLast t with
    | none => fail .valueOverwritten
    | some nest =>
      if (nest.get? stem).isSome then fail (.inlineKeyRepeated stem)
      else
        match t.modify false (Table.add? stem v) key.dropLast with
        | some t' => return t'
        | none => fail .valueOverwritten

/-- Reads a date, perhaps with a time of the day, if one is ahead. -/
def dated? : Reader (Option Value) := do
  match Calendar.date? (← get) with
  | none => return none
  | some (d, rest) =>
    if !Calendar.hasDay d then fail .invalidDate
    else
      match Calendar.timeOfDay? rest with
      | none =>
        set rest
        return some (.date d)
      | some ((t, offset), rest) =>
        set rest
        return some (.moment ⟨d, t, offset⟩)

/-- Reads a time, if one is ahead. -/
def timed? : Reader (Option Value) := do
  match Calendar.time? (← get) with
  | none => return none
  | some (t, rest) =>
    set rest
    return some (.time t)

/-- Reads a number, a date or a time. -/
def scalar : Reader Value := do
  if let some v ← dated? then return v
  if let some v ← timed? then return v
  let cs ← get
  match Number.number? cs with
  | some (v, n) =>
    match Number.excess? v (cs.take n) with
    | some count => fail (.tooManyDigits count)
    | none =>
      skip n
      return v
  | none => fail .invalidValue

mutual

/-- Reads a value; the bound comes first. -/
def value : Nat → Reader Value
  | 0 => fail .invalidValue
  | bound + 1 => do
    match ← peek with
    | some '"' =>
      if ← isAhead "\"\"\"" then return .string (← multiline '"') else return .string (← basic)
    | some '\'' =>
      if ← isAhead "'''" then return .string (← multiline '\'') else return .string (← verbatim)
    | some '[' =>
      skip 1
      return .array (← items bound)
    | some '\x7b' =>
      skip 1
      skipBlanks
      if (← peek) = some '\x7d' then
        skip 1
        return .table []
      else return .table (← entries bound [] [])
    | _ =>
      if ← isAhead "true" then
        skip 4
        return .boolean true
      else if ← isAhead "false" then
        skip 5
        return .boolean false
      else scalar

/-- Reads the rest of an array, behind its opening bracket or a comma. -/
def items : Nat → Reader (List Value)
  | 0 => fail .arrayNotClosed
  | bound + 1 => do
    skipLines ((← get).length + 1)
    if (← peek) = some ']' then
      skip 1
      return []
    else
      let v ← value bound
      skipLines ((← get).length + 1)
      match ← peek with
      | some ']' =>
        skip 1
        return [v]
      | some ',' =>
        skip 1
        return v :: (← items bound)
      | _ => fail .arrayNotClosed

/-- Reads the rest of an inline table, behind its opening brace or a comma, into `t`. -/
def entries : Nat → List Key → Table → Reader Table
  | 0, _, _ => fail .inlineTableNotClosed
  | bound + 1, closed, t => do
    let (k, v) ← pair bound
    let t' ← addInline closed t k v
    skipBlanks
    match ← peek with
    | some '\x7d' =>
      skip 1
      return t'
    | some ',' =>
      skip 1
      skipBlanks
      entries bound (if v.isNest then k :: closed else closed) t'
    | _ => fail .inlineTableNotClosed

/-- Reads a key, an equals sign and a value. -/
def pair : Nat → Reader (Key × Value)
  | 0 => fail .invalidValue
  | bound + 1 => do
    let k ← key
    if (← peek) = some '=' then
      skip 1
      skipBlanks
      return (k, ← value bound)
    else fail .missingEquals

end

end Reader

/-- A document that is being read. -/
structure Document where
  data : Table
  closed : List Key
  declared : List Key
  /-- The keys that are declared when the section ends. -/
  pending : List Key
  /-- The key of the section. -/
  header : Key

namespace Document

open Reader

/-- A document without statements. -/
def empty : Document := ⟨[], [], [], [], []⟩

/-- Ends the section. -/
def endSection (d : Document) : Document := { d with declared := d.pending ++ d.declared, pending := [] }

/-- The keys that a dotted key goes through, from the section on. -/
def through (d : Document) (key : Key) : List Key :=
  (List.range (key.length - 1)).map fun i => d.header ++ key.take (i + 1)

/-- Reads a key/value pair into the section. -/
def readPair (d : Document) (bound : Nat) : Reader Document := do
  let (k, v) ← pair bound
  let parent := d.header ++ k.dropLast
  match (d.through k).find? (d.declared.contains ·) with
  | some outer => fail (.namespaceRedefined outer)
  | none =>
    if isClosed d.closed parent then fail (.namespaceImmutable parent)
    else
      match d.data.modify true (Table.add? (k.getLast?.getD "") v) parent with
      | none => fail .valueOverwritten
      | some data =>
        return { d with
          data
          pending := d.through k ++ d.pending
          closed := if v.isNest then (d.header ++ k) :: d.closed else d.closed }

/-- Reads the header of a table, which opens a section. -/
def readTableHeader (d : Document) : Reader Document := do
  skip 1
  skipBlanks
  let k ← key
  if d.declared.contains k || isClosed d.closed k then fail (.declaredTwice k)
  else
    match d.data.modify true some k with
    | none => fail .valueOverwritten
    | some data =>
      if (← peek) = some ']' then
        skip 1
        return { d with data, declared := k :: d.declared, header := k }
      else fail .tableHeaderNotClosed

/-- Reads the header of an item of an array of tables, which opens a section. What was marked behind
the key belongs to the item before. -/
def readArrayHeader (d : Document) : Reader Document := do
  skip 2
  skipBlanks
  let k ← key
  if isClosed d.closed k then fail (.namespaceImmutable k)
  else
    match d.data.modify true (Table.appendItem? (k.getLast?.getD "")) k.dropLast with
    | none => fail .valueOverwritten
    | some data =>
      if ← isAhead "]]" then
        skip 2
        return { d with
          data
          declared := k :: d.declared.filter (!k.isPrefixOf ·)
          closed := d.closed.filter (!k.isPrefixOf ·)
          header := k }
      else fail .arrayHeaderNotClosed

/-- A character that can begin a key. -/
def startsKey (c : Char) : Bool := isBare c || c == '"' || c == '\''

/-- Reads a statement without the end of its line. -/
def readStatement (d : Document) (bound : Nat) (first : Char) : Reader Document := do
  if startsKey first then d.readPair bound
  else if first = '[' then
    if ← isAhead "[[" then d.endSection.readArrayHeader else d.endSection.readTableHeader
  else if first = '#' then return d
  else fail .invalidStatement

/-- Reads statements up to the end; the bound comes first. -/
def readAll : Nat → Document → Reader Document
  | 0, d => return d
  | bound + 1, d => do
    skipBlanks
    match ← peek with
    | none => return d
    | some '\n' =>
      skip 1
      readAll bound d
    | some c =>
      let d' ← d.readStatement (2 * (← get).length + 2) c
      skipBlanks
      skipComment
      match ← peek with
      | none => return d'
      | some '\n' =>
        skip 1
        readAll bound d'
      | some _ => fail .statementNotEnded

end Document

/-- A text with LF for every CR LF. -/
def joinLineEnds : List Char → List Char
  | '\r' :: '\n' :: rest => '\n' :: joinLineEnds rest
  | c :: rest => c :: joinLineEnds rest
  | [] => []

/-- The table of a document, or what is said about the first problem in it. -/
def parse (text : List Char) : Except Refusal Table :=
  let document := joinLineEnds text
  match Document.empty.readAll (document.length + 1) document with
  | .ok (d, _) => .ok d.data
  | .error p => .error (p.refusal document)

end Lexis.Toml

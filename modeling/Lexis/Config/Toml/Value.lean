import Lexis.Config.Toml.Calendar
import Lexis.Decimal.Binary
import Lexis.Text.Quoted

/-!
# TOML values

A document is a table of values. Tables keep their entries in the order in which they were made. A
number with a point or an exponent is a binary number.

`Table.modify` reaches the table behind a key of several parts and makes the tables on the way that
are missing; through an array it goes on in the last item, which is the one a document can still
add to.
-/

namespace Lexis.Toml

/-- The greatest number of decimal digits that an integer may have. -/
def mostDigits : Nat := 4300

/-- A value of a document. -/
inductive Value
  | string (text : String)
  | boolean (b : Bool)
  | integer (i : Int)
  | real (x : Binary64)
  | date (d : Date)
  | time (t : Time)
  | moment (m : Moment)
  | array (items : List Value)
  | table (entries : List (String × Value))
  deriving Repr

/-- The entries of a table. -/
abbrev Table := List (String × Value)

/-- The parts of a dotted key. -/
abbrev Key := List String

namespace Value

/-- A value inside another one: texts in quotes. -/
def describe : Value → String
  | .string s => Quoted.quote s
  | .boolean b => if b then "True" else "False"
  | .integer i => toString i
  | .real x => x.text
  | .date d => d.describe
  | .time t => t.describe
  | .moment m => m.describe
  | .array vs => "[" ++ ", ".intercalate (describeAll vs) ++ "]"
  | .table es => "\x7b" ++ ", ".intercalate (describeEntries es) ++ "\x7d"
where
  /-- The items of an array. -/
  describeAll : List Value → List String
    | [] => []
    | v :: vs => describe v :: describeAll vs
  /-- The entries of a table. -/
  describeEntries : List (String × Value) → List String
    | [] => []
    | (k, v) :: es => (Quoted.quote k ++ ": " ++ describe v) :: describeEntries es

/-- A value on its own: texts as they are, dates and times in numbers and marks only. -/
def display : Value → String
  | .string s => s
  | .date d => d.text
  | .time t => t.text
  | .moment m => m.text
  | v => v.describe

/-- No integer in the value has too many decimal digits to be written. -/
def isShort : Value → Bool
  | .integer i => (Decimal.digits i.natAbs).length ≤ mostDigits
  | .array vs => areShort vs
  | .table es => haveShort es
  | _ => true
where
  /-- The same of the items of an array. -/
  areShort : List Value → Bool
    | [] => true
    | v :: vs => isShort v && areShort vs
  /-- The same of the values of a table. -/
  haveShort : List (String × Value) → Bool
    | [] => true
    | (_, v) :: es => isShort v && haveShort es

/-- The value is a table or an array, which nothing outside it can extend. -/
def isNest : Value → Bool
  | .array _ | .table _ => true
  | _ => false

end Value

namespace Table

/-- The value of a key, if the table has the key. -/
def get? (t : Table) (k : String) : Option Value := (List.find? (·.1 == k) t).map (·.2)

/-- The table with the value of a key replaced, or with the key added at the end. -/
def insert (t : Table) (k : String) (v : Value) : Table :=
  if List.any t (·.1 == k) then List.map (fun e => if e.1 == k then (k, v) else e) t
  else t ++ [(k, v)]

/-- Changes the table behind the key `ks`; none if a part of the key names something that is no
table. With `throughArrays`, an array stands for its last item. -/
def modify (throughArrays : Bool) (change : Table → Option Table) : Key → Table → Option Table
  | [], t => change t
  | k :: ks, t =>
    match get? t k with
    | none => (modify throughArrays change ks []).map fun inner => insert t k (.table inner)
    | some (.table inner) =>
      (modify throughArrays change ks inner).map fun inner => insert t k (.table inner)
    | some (.array items) =>
      match throughArrays, items.getLast? with
      | true, some (.table inner) =>
        (modify throughArrays change ks inner).map fun inner =>
          insert t k (.array (items.dropLast ++ [.table inner]))
      | _, _ => none
    | some _ => none

/-- Adds a key that the table does not have yet. -/
def add? (k : String) (v : Value) (t : Table) : Option Table :=
  match get? t k with
  | none => some (insert t k v)
  | some _ => none

/-- Adds an empty table to the array of the key, which is made if it is missing. -/
def appendItem? (k : String) (t : Table) : Option Table :=
  match get? t k with
  | none => some (insert t k (.array [.table []]))
  | some (.array items) => some (insert t k (.array (items ++ [.table []])))
  | some _ => none

end Table

end Lexis.Toml

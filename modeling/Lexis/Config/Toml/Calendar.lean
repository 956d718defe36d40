import Lexis.Decimal.Text

/-!
# Dates and times

A date is a day of the calendar, a time a moment of a day, and a date with a time may say how far its
clock is ahead of universal time. Fractions of a second are kept to six places. Every reader takes
the longest text of its form from the front of a text, and gives what it spells and the rest.
-/

namespace Lexis.Toml

/-- A day of the calendar. -/
structure Date where
  year : Nat
  month : Nat
  day : Nat
  deriving DecidableEq, Repr

/-- A moment of a day. -/
structure Time where
  hour : Nat
  minute : Nat
  second : Nat
  microsecond : Nat
  deriving DecidableEq, Repr

/-- A moment of a day of the calendar. The offset counts the minutes by which the clock is ahead of
universal time, if that is told. -/
structure Moment where
  date : Date
  time : Time
  offset : Option Int
  deriving DecidableEq, Repr

namespace Calendar

/-! ### Writing -/

/-- The digits of a number with zeros in front, at least `width` of them. -/
def padded (width n : Nat) : String :=
  let ds := Decimal.digits n
  String.ofList (List.replicate (width - ds.length) '0' ++ ds)

/-- Numbers in parentheses behind a name. -/
def call (name : String) (args : List String) : String :=
  name ++ "(" ++ ", ".intercalate args ++ ")"

end Calendar

open Calendar

/-- The date as year, month and day. -/
def Date.text (d : Date) : String :=
  padded 4 d.year ++ "-" ++ padded 2 d.month ++ "-" ++ padded 2 d.day

/-- The numbers of a date. -/
def Date.fields (d : Date) : List String := [d.year, d.month, d.day].map toString

/-- The date inside another value. -/
def Date.describe (d : Date) : String := call "datetime.date" d.fields

/-- The time as hour, minute and second, with six places if the second has a fraction. -/
def Time.text (t : Time) : String :=
  padded 2 t.hour ++ ":" ++ padded 2 t.minute ++ ":" ++ padded 2 t.second ++
    (if t.microsecond = 0 then "" else "." ++ padded 6 t.microsecond)

/-- The numbers of a time, without the zeros behind the minute. -/
def Time.fields (t : Time) : List String :=
  (if t.microsecond ≠ 0 then [t.hour, t.minute, t.second, t.microsecond]
    else if t.second ≠ 0 then [t.hour, t.minute, t.second]
    else [t.hour, t.minute]).map toString

/-- The time inside another value. -/
def Time.describe (t : Time) : String := call "datetime.time" t.fields

namespace Moment

/-- An offset as a sign, hours and minutes. -/
def offsetText (minutes : Int) : String :=
  (if minutes < 0 then "-" else "+") ++ padded 2 (minutes.natAbs / 60) ++ ":" ++
    padded 2 (minutes.natAbs % 60)

/-- An offset inside another value: a negative one is a day back and some seconds ahead. -/
def describeOffset (minutes : Int) : String :=
  if minutes = 0 then "datetime.timezone.utc"
  else
    let span :=
      if minutes < 0 then ["days=-1", "seconds=" ++ toString (86400 + minutes * 60)]
      else ["seconds=" ++ toString (minutes * 60)]
    call "datetime.timezone" [call "datetime.timedelta" span]

/-- The date and the time, and the offset if there is one. -/
def text (m : Moment) : String :=
  m.date.text ++ " " ++ m.time.text ++ (m.offset.map offsetText).getD ""

/-- The date and the time inside another value. -/
def describe (m : Moment) : String :=
  call "datetime.datetime"
    (m.date.fields ++ m.time.fields ++ (m.offset.map ("tzinfo=" ++ describeOffset ·)).toList)

end Moment

namespace Calendar

/-! ### Reading -/

/-- Two digits that spell a number from `low` to `high`. -/
def twoDigits? (low high : Nat) : List Char → Option (Nat × List Char)
  | a :: b :: rest =>
    let n := Decimal.valueOf [a, b]
    if CharClass.isDigit a && CharClass.isDigit b && low ≤ n && n ≤ high then some (n, rest)
    else none
  | _ => none

/-- The text behind the character `c`. -/
def after? (c : Char) : List Char → Option (List Char)
  | d :: rest => if d = c then some rest else none
  | [] => none

/-- The microseconds that a point and digits spell; the digits behind the sixth do not count. Without
a digit nothing is taken. -/
def fraction (cs : List Char) : Nat × List Char :=
  match cs with
  | '.' :: c :: rest =>
    if CharClass.isDigit c then
      let ds := ((c :: rest).takeWhile CharClass.isDigit).take 6
      (Decimal.valueOf (ds ++ List.replicate (6 - ds.length) '0'), rest.dropWhile CharClass.isDigit)
    else (0, cs)
  | _ => (0, cs)

/-- A time. -/
def time? (cs : List Char) : Option (Time × List Char) := do
  let (hour, cs) ← twoDigits? 0 23 cs
  let (minute, cs) ← twoDigits? 0 59 (← after? ':' cs)
  let (second, cs) ← twoDigits? 0 59 (← after? ':' cs)
  let (microsecond, cs) := fraction cs
  return (⟨hour, minute, second, microsecond⟩, cs)

/-- The offset of a clock with the sign `sign` ahead. -/
def signedOffset? (sign : Int) (cs : List Char) : Option (Int × List Char) := do
  let (hours, cs) ← twoDigits? 0 23 cs
  let (minutes, cs) ← twoDigits? 0 59 (← after? ':' cs)
  return (sign * (hours * 60 + minutes : Nat), cs)

/-- The offset of a clock: a letter for universal time, or a sign, hours and minutes. -/
def offset? : List Char → Option (Int × List Char)
  | 'Z' :: rest | 'z' :: rest => some (0, rest)
  | '+' :: rest => signedOffset? 1 rest
  | '-' :: rest => signedOffset? (-1) rest
  | _ => none

/-- The time behind a date: a blank or the letter T, a time, and perhaps an offset. -/
def timeOfDay? : List Char → Option ((Time × Option Int) × List Char)
  | c :: rest =>
    if c = 'T' || c = 't' || c = ' ' then do
      let (t, cs) ← time? rest
      match offset? cs with
      | some (o, cs) => return ((t, some o), cs)
      | none => return ((t, none), cs)
    else none
  | [] => none

/-- The number of days in a month of a year. -/
def daysIn (year month : Nat) : Nat :=
  if month = 2 then
    if year % 4 = 0 && (year % 100 != 0 || year % 400 = 0) then 29 else 28
  else if month = 4 || month = 6 || month = 9 || month = 11 then 30
  else 31

/-- The calendar has the day. The years begin with 1. -/
def hasDay (d : Date) : Bool := 1 ≤ d.year && d.day ≤ daysIn d.year d.month

/-- Numbers that may be a day of the calendar. -/
def date? (cs : List Char) : Option (Date × List Char) := do
  let (century, cs) ← twoDigits? 0 99 cs
  let (years, cs) ← twoDigits? 0 99 cs
  let (month, cs) ← twoDigits? 1 12 (← after? '-' cs)
  let (day, cs) ← twoDigits? 1 31 (← after? '-' cs)
  return (⟨century * 100 + years, month, day⟩, cs)

end Calendar

end Lexis.Toml

/-
# TOML values

The values of a TOML document, and the text that shows one in a message.  Dates and times are
shown as calls with their parts as arguments; seconds and microseconds that are zero are left out
at the end.
-/
import MovePack.Number.Notation
import MovePack.Text.Quoted

namespace MovePack.Toml

/-- A date of the calendar. -/
structure Date where
  /-- The year. -/
  year : Nat
  /-- The month, from 1. -/
  month : Nat
  /-- The day, from 1. -/
  day : Nat
deriving DecidableEq, Repr

/-- A time of the day. -/
structure Time where
  /-- The hour. -/
  hour : Nat
  /-- The minute. -/
  minute : Nat
  /-- The second. -/
  second : Nat
  /-- The microsecond. -/
  microsecond : Nat
deriving DecidableEq, Repr

/-- A TOML value. -/
inductive Value where
  /-- A string. -/
  | string (t : Text)
  /-- An integer. -/
  | integer (i : Int)
  /-- A floating-point number. -/
  | float (x : Binary64)
  /-- A truth value. -/
  | boolean (b : Bool)
  /-- A date. -/
  | date (d : Date)
  /-- A time. -/
  | time (t : Time)
  /-- A date and a time, with the offset from universal time in minutes if it is given. -/
  | dateTime (d : Date) (t : Time) (offset? : Option Int)
  /-- An array. -/
  | array (elements : List Value)
  /-- A table, as its keys and their values. -/
  | table (members : List (Text × Value))
deriving Repr, Inhabited

namespace Date

/-- The year has a 29th of February. -/
def isLeapYear (year : Nat) : Bool := year % 4 = 0 && (year % 100 != 0 || year % 400 = 0)

/-- The number of days of a month. -/
def daysOf (year month : Nat) : Nat :=
  if month = 2 then if isLeapYear year then 29 else 28
  else if month = 4 ∨ month = 6 ∨ month = 9 ∨ month = 11 then 30
  else 31

/-- The date stands in the calendar. -/
def isValid (d : Date) : Bool :=
  1 ≤ d.year && 1 ≤ d.month && d.month ≤ 12 && 1 ≤ d.day && d.day ≤ daysOf d.year d.month

/-- The parts of a date. -/
def parts (d : Date) : List Text := [Text.ofNat d.year, Text.ofNat d.month, Text.ofNat d.day]

end Date

/-- The parts of a time, without seconds and microseconds that are zero at the end. -/
def Time.parts (t : Time) : List Text :=
  let exact := [Text.ofNat t.hour, Text.ofNat t.minute]
  if t.microsecond ≠ 0 then exact ++ [Text.ofNat t.second, Text.ofNat t.microsecond]
  else if t.second ≠ 0 then exact ++ [Text.ofNat t.second]
  else exact

/-- The name and the arguments between parentheses. -/
def callText (name : String) (arguments : List Text) : Text :=
  name ++ "(" ++ Text.join ", " arguments ++ ")"

/-- The text of an offset in minutes: days, which are minus one or not mentioned, and seconds. -/
def offsetText (offset : Int) : Text :=
  if offset = 0 then "datetime.timezone.utc"
  else
    let seconds := offset * 60
    let span : List Text :=
      if seconds < 0 then [Text.ofString "days=-1", "seconds=" ++ Text.ofInt (seconds + 86400)]
      else ["seconds=" ++ Text.ofInt seconds]
    callText "datetime.timezone" [callText "datetime.timedelta" span]

namespace Value

mutual

/-- The text of a value. -/
def display : Value → Text
  | .string t => t.quoted
  | .integer i => Text.ofInt i
  | .float x => x.toText
  | .boolean b => Text.ofString (if b then "True" else "False")
  | .date d => callText "datetime.date" d.parts
  | .time t => callText "datetime.time" t.parts
  | .dateTime d t offset? =>
    let zone := offset?.map fun offset => "tzinfo=" ++ offsetText offset
    callText "datetime.datetime" (d.parts ++ t.parts ++ zone.toList)
  | .array elements => "[" ++ Text.join ", " (displayElements elements) ++ "]"
  | .table members => "\x7b" ++ Text.join ", " (displayMembers members) ++ "\x7d"

/-- The texts of elements. -/
def displayElements : List Value → List Text
  | [] => []
  | v :: rest => display v :: displayElements rest

/-- The texts of members. -/
def displayMembers : List (Text × Value) → List Text
  | [] => []
  | (key, v) :: rest => (key.quoted ++ ": " ++ display v) :: displayMembers rest

end

/-- Why a value is not shown. -/
inductive DisplayFault where
  /-- An integer has too many decimal digits. -/
  | tooManyDigits
  /-- A value lies in too many arrays and tables. -/
  | tooDeep
deriving DecidableEq, Repr

/-- The largest number of arrays and tables around a value that is shown. -/
def maxShownDepth : Nat := 980

/-- The message of a value that is not shown. -/
def DisplayFault.message : DisplayFault → Text
  | .tooManyDigits => Text.digitLimit
  | .tooDeep => "maximum recursion depth exceeded while getting the repr of an object"

mutual

/-- What first keeps a value inside of `depth` arrays and tables from being shown. -/
def displayFault? (depth : Nat) : Value → Option DisplayFault
  | .integer i =>
    if maxShownDepth < depth then some .tooDeep
    else if Text.shown? i = none then some .tooManyDigits
    else none
  | .array elements =>
    if maxShownDepth < depth then some .tooDeep else elementsFault? (depth + 1) elements
  | .table members =>
    if maxShownDepth < depth then some .tooDeep else membersFault? (depth + 1) members
  | _ => if maxShownDepth < depth then some .tooDeep else none

/-- What first keeps one of the elements from being shown. -/
def elementsFault? (depth : Nat) : List Value → Option DisplayFault
  | [] => none
  | v :: rest => displayFault? depth v <|> elementsFault? depth rest

/-- What first keeps one of the members from being shown. -/
def membersFault? (depth : Nat) : List (Text × Value) → Option DisplayFault
  | [] => none
  | (_, v) :: rest => displayFault? depth v <|> membersFault? depth rest

end

/-- The value of a key in a table; other values have no keys. -/
def member? (key : String) : Value → Option Value
  | .table members => (members.find? fun m => m.1 = Text.ofString key).map Prod.snd
  | _ => none

end Value

end MovePack.Toml

import Fabula.Text.Quoted
/-!
# Moments

A moment is a date and a time of day, with an offset to universal time if it is known. Moments are
written in the extended format of ISO 8601 and read from most of its formats: calendar dates and
week dates, with or without separators, and times down to the microsecond. A NUL character ends a
time wherever its end is looked for.
-/

namespace Fabula

/-- A date and a time of day. The offset is in microseconds. -/
structure Moment where
  year : Nat
  month : Nat
  day : Nat
  hour : Nat
  minute : Nat
  second : Nat
  microsecond : Nat
  offset : Option Int
deriving DecidableEq, Repr

namespace Moment

inductive Fault where
  | malformed
  | offset (microseconds : Int)
  | year (given : Nat)
  | month
  | day
  | hour
  | minute
  | second
deriving DecidableEq, Repr

def isLeap (year : Nat) : Bool :=
  year % 4 == 0 && (year % 100 != 0 || year % 400 == 0)

def daysInYear (year : Nat) : Nat :=
  if isLeap year then 366 else 365

def monthLengths (year : Nat) : List Nat :=
  [31, if isLeap year then 29 else 28, 31, 30, 31, 30, 31, 31, 30, 31, 30, 31]

def daysInMonth (year month : Nat) : Nat :=
  (monthLengths year).getD (month - 1) 0

def firstWeekday (year : Nat) : Nat :=
  let before := year - 1
  (before * 365 + before / 4 - before / 100 + before / 400) % 7

def isLong (year : Nat) : Bool :=
  firstWeekday year == 3 || (firstWeekday year == 2 && isLeap year)

def monthAndDay : Nat → List Nat → Nat × Nat
  | day, [] => (1, day + 1)
  | day, length :: lengths =>
    if day < length then (1, day + 1)
    else
      let (month, day) := monthAndDay (day - length) lengths
      (month + 1, day)

def dateOfDay (year : Nat) (day : Int) : Nat × Nat × Nat :=
  if day < 0 then
    let year := year - 1
    (year, monthAndDay (day + daysInYear year).toNat (monthLengths year))
  else if daysInYear year ≤ day then
    (year + 1, monthAndDay (day - daysInYear year).toNat (monthLengths (year + 1)))
  else (year, monthAndDay day.toNat (monthLengths year))

/-- The calendar date of a weekday, counted from one, in a week. The first week of a year is the
one with its first Thursday. Weeks before the first year have no month. -/
def dateOfWeek? (year week weekday : Nat) : Option (Nat × Nat × Nat) :=
  let weeks := if isLong year then 53 else 52
  if week == 0 || weeks < week || weekday == 0 || 7 < weekday then none
  else if year == 0 then some (1, 0, 0)
  else
    let first := firstWeekday year
    let monday : Int := if 3 < first then 7 - (first : Int) else -(first : Int)
    some (dateOfDay year (monday + (week - 1 : Nat) * 7 + (weekday - 1 : Nat)))

def isDigit (c : Char) : Bool :=
  '0' ≤ c && c ≤ '9'

def number? : Nat → List Char → Option (Nat × List Char)
  | 0, text => some (0, text)
  | count + 1, c :: text =>
    if isDigit c then do
      let (n, rest) ← number? count text
      return ((c.toNat - 48) * Nat.pow 10 count + n, rest)
    else none
  | _ + 1, [] => none

def skip? (c : Char) : List Char → Option (List Char)
  | [] => none
  | d :: rest => if c == d then some rest else none

def date? (text : List Char) : Option (Nat × Nat × Nat) := do
  let (year, rest) ← number? 4 text
  let (separated, rest) :=
    match rest with
    | '-' :: rest => (true, rest)
    | rest => (false, rest)
  match rest with
  | 'W' :: rest =>
    let (week, rest) ← number? 2 rest
    if rest.isEmpty then dateOfWeek? year week 1
    else
      let rest ← if separated then skip? '-' rest else some rest
      let (weekday, _) ← number? 1 rest
      dateOfWeek? year week weekday
  | rest =>
    let (month, rest) ← number? 2 rest
    let rest ← if separated then skip? '-' rest else some rest
    let (day, _) ← number? 2 rest
    return (year, month, day)

/-- How many characters of a text are its date. What separates it from the time can be any
character, so that the format has to tell. -/
def dateLength (text : List Char) : Nat :=
  if text.length == 7 then 7
  else
    match text.drop 4 with
    | '-' :: 'W' :: _ :: _ :: '-' :: rest =>
      match rest with
      | _ :: c :: _ => if isDigit c then 8 else 10
      | _ => 10
    | '-' :: 'W' :: _ => 8
    | '-' :: _ => 10
    | 'W' :: rest =>
      let digits := ((rest.drop 2).takeWhile isDigit).length
      if digits < 2 then 7 + digits else if digits % 2 == 1 then 7 else 8
    | _ => 8

structure TimeOfDay where
  hour : Nat
  minute : Nat
  second : Nat
  microsecond : Nat
deriving DecidableEq, Repr

def isEnd : List Char → Bool
  | [] => true
  | c :: _ => c == '\x00'

def fraction? (text : List Char) : Option (Nat × Bool) := do
  let count := min 6 text.length
  let (n, rest) ← number? count text
  return (n * Nat.pow 10 (6 - count), isEnd (rest.dropWhile isDigit))

inductive Continuation where
  | done (complete : Bool)
  | part (text : List Char)
  | fraction (text : List Char)

def continuation? (separated : Bool) : List Char → Option Continuation
  | [] => some (.done true)
  | [c] => if c.toNat < 128 then some (.done (isEnd [c])) else none
  | c :: rest =>
    if separated && c == ':' then some (.part rest)
    else if c == '.' || c == ',' then some (.fraction rest)
    else if !separated then some (.part (c :: rest))
    else none

def timeOfDay? (text : List Char) : Option (TimeOfDay × Bool) := do
  let (hour, rest) ← number? 2 text
  let separated := rest.head? == some ':'
  match ← continuation? separated rest with
  | .done complete => return (⟨hour, 0, 0, 0⟩, complete)
  | .fraction rest =>
    let (microsecond, complete) ← fraction? rest
    return (⟨hour, 0, 0, microsecond⟩, complete)
  | .part rest =>
    let (minute, rest) ← number? 2 rest
    match ← continuation? separated rest with
    | .done complete => return (⟨hour, minute, 0, 0⟩, complete)
    | .fraction rest =>
      let (microsecond, complete) ← fraction? rest
      return (⟨hour, minute, 0, microsecond⟩, complete)
    | .part rest =>
      let (second, rest) ← number? 2 rest
      match ← continuation? separated rest with
      | .done complete => return (⟨hour, minute, second, 0⟩, complete)
      | .fraction rest | .part rest =>
        let (microsecond, complete) ← fraction? rest
        return (⟨hour, minute, second, microsecond⟩, complete)

def offsetOf (negative : Bool) (time : TimeOfDay) : Int :=
  let seconds := time.hour * 3600 + time.minute * 60 + time.second
  if seconds == 0 then 0
  else
    let microseconds : Int := seconds * 1000000 + time.microsecond
    if negative then -microseconds else microseconds

/-- The time of day and the offset that a text is. What stands in front of an offset may end in one
ASCII character that is left over. -/
def time? (text : List Char) : Option (TimeOfDay × Option Int) := do
  let isMark := fun c => c == '+' || c == '-' || c == 'Z'
  let (time, complete) ← timeOfDay? (text.takeWhile fun c => !isMark c)
  match text.dropWhile fun c => !isMark c with
  | [] => if complete then return (time, none) else none
  | 'Z' :: rest => if isEnd rest then return (time, some 0) else none
  | mark :: rest =>
    let (offset, complete) ← timeOfDay? rest
    if complete then return (time, some (offsetOf (mark == '-') offset)) else none

def dayLength : Int := 86400000000

def check (moment : Moment) : Except Fault Moment := do
  if let some offset := moment.offset then
    if offset ≤ -dayLength || dayLength ≤ offset then throw (.offset offset)
  if moment.year < 1 || 9999 < moment.year then throw (.year moment.year)
  if moment.month < 1 || 12 < moment.month then throw .month
  if moment.day < 1 || daysInMonth moment.year moment.month < moment.day then throw .day
  if 23 < moment.hour then throw .hour
  if 59 < moment.minute then throw .minute
  if 59 < moment.second then throw .second
  return moment

def ofText (text : String) : Except Fault Moment := do
  let text := text.toList
  let length := dateLength text
  let some (year, month, day) := date? (text.take length) | throw .malformed
  if text.length ≤ length then
    check ⟨year, month, day, 0, 0, 0, 0, none⟩
  else
    let some (time, offset) := time? (text.drop (length + 1)) | throw .malformed
    check ⟨year, month, day, time.hour, time.minute, time.second, time.microsecond, offset⟩

def padded (width n : Nat) : String :=
  let digits := toString n
  String.ofList (List.replicate (width - digits.length) '0') ++ digits

def fractionText (microseconds : Nat) : String :=
  if microseconds == 0 then "" else "." ++ padded 6 microseconds

def offsetText (offset : Int) : String :=
  let magnitude := offset.natAbs
  let seconds := magnitude / 1000000
  let microseconds := magnitude % 1000000
  let tail :=
    if seconds % 60 == 0 && microseconds == 0 then ""
    else ":" ++ padded 2 (seconds % 60) ++ fractionText microseconds
  (if offset < 0 then "-" else "+") ++ padded 2 (seconds / 3600) ++ ":" ++
    padded 2 (seconds / 60 % 60) ++ tail

def text (moment : Moment) : String :=
  padded 4 moment.year ++ "-" ++ padded 2 moment.month ++ "-" ++ padded 2 moment.day ++ "T" ++
    padded 2 moment.hour ++ ":" ++ padded 2 moment.minute ++ ":" ++ padded 2 moment.second ++
    fractionText moment.microsecond ++ (moment.offset.map offsetText).getD ""

/-- A span of microseconds by its days, seconds and microseconds, of which only the days can be
negative. -/
def spanText (microseconds : Int) : String :=
  let days := microseconds.fdiv dayLength
  let seconds := (microseconds.fmod dayLength) / 1000000
  let rest := (microseconds.fmod dayLength) % 1000000
  let parts :=
    (if days == 0 then [] else ["days=" ++ toString days]) ++
      (if seconds == 0 then [] else ["seconds=" ++ toString seconds]) ++
      (if rest == 0 then [] else ["microseconds=" ++ toString rest])
  "datetime.timedelta(" ++ (if parts.isEmpty then "0" else ", ".intercalate parts) ++ ")"

def Fault.message (given : String) : Fault → String
  | .malformed => "Invalid isoformat string: " ++ Text.quoted given
  | .offset microseconds =>
    "offset must be a timedelta strictly between -timedelta(hours=24) and timedelta(hours=24), " ++
      "not " ++ spanText microseconds ++ "."
  | .year given => "year " ++ toString given ++ " is out of range"
  | .month => "month must be in 1..12"
  | .day => "day is out of range for month"
  | .hour => "hour must be in 0..23"
  | .minute => "minute must be in 0..59"
  | .second => "second must be in 0..59"

end Moment
end Fabula

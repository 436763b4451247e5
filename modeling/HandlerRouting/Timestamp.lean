import HandlerRouting.Numeral

/-!
Timestamps: calendar dates and moments, and the texts that stand for them. A text may have the form
of a timestamp and yet name a day or a time that does not exist.
-/

namespace HandlerRouting

structure Date where
  year : Nat
  month : Nat
  day : Nat
deriving DecidableEq, Repr

/-- A date with a time of day. The offset is how many minutes the clock is ahead of the common time,
where that is known. -/
structure Moment where
  date : Date
  hour : Nat
  minute : Nat
  second : Nat
  micro : Nat
  offset : Option Int
deriving DecidableEq, Repr

inductive Timestamp where
  | date (d : Date)
  | moment (m : Moment)
deriving DecidableEq, Repr

inductive CalendarFlaw where
  | year (given : Nat)
  | month
  | day
  | hour
  | minute
  | second
  | offset (minutes : Int)
deriving DecidableEq, Repr

def spanShown (minutes : Int) : String :=
  let days := Int.fdiv minutes 1440
  let seconds := 60 * Int.fmod minutes 1440
  let given := (if days = 0 then [] else ["days=" ++ toString days]) ++
    if seconds = 0 then [] else ["seconds=" ++ toString seconds]
  "datetime.timedelta(" ++ (if given.isEmpty then "0" else ", ".intercalate given) ++ ")"

def CalendarFlaw.message : CalendarFlaw → String
  | year given => "year " ++ toString given ++ " is out of range"
  | month => "month must be in 1..12"
  | day => "day is out of range for month"
  | hour => "hour must be in 0..23"
  | minute => "minute must be in 0..59"
  | second => "second must be in 0..59"
  | offset minutes =>
    "offset must be a timedelta strictly between -timedelta(hours=24) and " ++
      "timedelta(hours=24), not " ++ spanShown minutes ++ "."

namespace Date

def isLeap (year : Nat) : Bool := year % 4 = 0 && (year % 100 ≠ 0 || year % 400 = 0)

def daysIn (year month : Nat) : Nat :=
  if month = 2 then (if isLeap year then 29 else 28)
  else if [4, 6, 9, 11].contains month then 30
  else 31

def flaw? (d : Date) : Option CalendarFlaw :=
  if d.year = 0 then some (.year d.year)
  else if d.month = 0 ∨ 12 < d.month then some .month
  else if d.day = 0 ∨ daysIn d.year d.month < d.day then some .day
  else none

def parts (d : Date) : List Nat := [d.year, d.month, d.day]

def shown (d : Date) : String := "datetime.date(" ++ ", ".intercalate (d.parts.map toString) ++ ")"

example : daysIn 2024 2 = 29 ∧ daysIn 1900 2 = 28 := by decide

end Date

namespace Moment

def flaw? (m : Moment) : Option CalendarFlaw :=
  match m.offset.filter fun minutes => 1440 ≤ minutes.natAbs with
  | some minutes => some (.offset minutes)
  | none =>
    m.date.flaw?.or <|
      if 23 < m.hour then some .hour
      else if 59 < m.minute then some .minute
      else if 59 < m.second then some .second
      else none

def shown (m : Moment) : String :=
  let fine := if m.micro ≠ 0 then [m.second, m.micro] else if m.second ≠ 0 then [m.second] else []
  let zone := match m.offset with
    | none => []
    | some 0 => ["tzinfo=datetime.timezone.utc"]
    | some minutes => ["tzinfo=datetime.timezone(" ++ spanShown minutes ++ ")"]
  "datetime.datetime(" ++
    ", ".intercalate ((m.date.parts ++ [m.hour, m.minute] ++ fine).map toString ++ zone) ++ ")"

end Moment

namespace Timestamp

def flaw? : Timestamp → Option CalendarFlaw
  | date d => d.flaw?
  | moment m => m.flaw?

def readField (least most : Nat) (s : List Char) : Option (Nat × List Char) :=
  let run := s.takeWhile Char.isDigit
  if least ≤ run.length ∧ run.length ≤ most then
    some (Numeral.digitsValue run, s.drop run.length)
  else none

def readMark (mark : Char) : List Char → Option (List Char)
  | c :: rest => if c = mark then some rest else none
  | [] => none

def isGap (c : Char) : Bool := c = ' ' || c = '\t'

def readDate (s : List Char) : Option (Date × List Char) := do
  let (year, s) ← readField 4 4 s
  let (month, s) ← readField 1 2 (← readMark '-' s)
  let (day, s) ← readField 1 2 (← readMark '-' s)
  return (⟨year, month, day⟩, s)

def microOf (fraction : List Char) : Nat :=
  let kept := fraction.take 6
  Numeral.digitsValue (kept ++ List.replicate (6 - kept.length) '0')

def readOffset (s : List Char) : Option (Option Int) :=
  match s with
  | [] => some none
  | _ =>
    match s.dropWhile isGap with
    | ['Z'] => some (some 0)
    | '+' :: rest => (readClock rest).map some
    | '-' :: rest => (readClock rest).map fun minutes => some (-minutes)
    | _ => none
where
  readClock (s : List Char) : Option Int := do
    let (hours, s) ← readField 1 2 s
    match s with
    | [] => return 60 * hours
    | _ =>
      let (minutes, s) ← readField 2 2 (← readMark ':' s)
      if s.isEmpty then return 60 * hours + minutes else none

def readJoint : List Char → Option (List Char)
  | [] => none
  | c :: rest =>
    if c = 'T' ∨ c = 't' then some rest
    else if isGap c then some (rest.dropWhile isGap)
    else none

def readTime (d : Date) (s : List Char) : Option Moment := do
  let (hour, s) ← readField 1 2 (← readJoint s)
  let (minute, s) ← readField 2 2 (← readMark ':' s)
  let (second, s) ← readField 2 2 (← readMark ':' s)
  let (fraction, s) := match s with
    | '.' :: rest => (rest.takeWhile Char.isDigit, rest.dropWhile Char.isDigit)
    | _ => ([], s)
  return ⟨d, hour, minute, second, microOf fraction, ← readOffset s⟩

def read? (s : List Char) : Option Timestamp := do
  let (d, rest) ← readDate s
  if rest.isEmpty then return date d else return moment (← readTime d rest)

def recognize? (s : List Char) : Option Timestamp :=
  (read? s).filter fun
    | date _ => s.length == 10
    | moment _ => true

example :
    recognize? "2024-01-15".toList = some (date ⟨2024, 1, 15⟩) := by decide +kernel

example : recognize? "2024-1-15".toList = none := by decide +kernel

example :
    read? "2024-1-15 7:08:09.5 -1:30".toList =
      some (moment ⟨⟨2024, 1, 15⟩, 7, 8, 9, 500000, some (-90)⟩) := by decide +kernel

end Timestamp

end HandlerRouting

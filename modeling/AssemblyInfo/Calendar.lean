import AssemblyInfo.Decimal.Notation

/-!
# Dates and times

Dates of the proleptic Gregorian calendar, and times of day with or without an offset from
universal time.
-/

namespace AssemblyInfo.Calendar
open Decimal

/-- A date. -/
structure Date where
  year : Nat
  month : Nat
  day : Nat
  deriving DecidableEq, Repr

/-- A time of day on a date. -/
structure Moment where
  date : Date
  hour : Nat
  minute : Nat
  second : Nat
  microsecond : Nat
  /-- The offset from universal time in minutes. -/
  offset : Option Int
  deriving DecidableEq, Repr

/-- Why numbers are no date or time. -/
inductive Flaw where
  | year (year : Nat)
  | month
  | day
  | hour
  | minute
  | second
  /-- The offset, in minutes, is a day or more. -/
  | offset (minutes : Int)
  deriving DecidableEq, Repr

def isLeap (year : Nat) : Bool :=
  year % 4 == 0 && (year % 100 != 0 || year % 400 == 0)

def monthLength (year month : Nat) : Nat :=
  if month = 2 then (if isLeap year then 29 else 28)
  else if month = 4 || month = 6 || month = 9 || month = 11 then 30
  else 31

/-- `date.flaw?` is the first thing wrong with the numbers of `date`. -/
def Date.flaw? (date : Date) : Option Flaw :=
  if date.year < 1 || 9999 < date.year then some (.year date.year)
  else if date.month < 1 || 12 < date.month then some .month
  else if date.day < 1 || monthLength date.year date.month < date.day then some .day
  else none

def offsetFlaw? : Option Int → Option Flaw
  | some minutes => if minutes.natAbs < 1440 then none else some (.offset minutes)
  | none => none

/-- `moment.timeFlaw?` is the first thing wrong with the time of day of `moment`. -/
def Moment.timeFlaw? (moment : Moment) : Option Flaw :=
  if 23 < moment.hour then some .hour
  else if 59 < moment.minute then some .minute
  else if 59 < moment.second then some .second
  else none

/-- `moment.flaw?` is the first thing wrong with the numbers of `moment`. -/
def Moment.flaw? (moment : Moment) : Option Flaw :=
  (offsetFlaw? moment.offset).or (moment.date.flaw?.or moment.timeFlaw?)

/-- `yearDays year` is the number of days before `year`. -/
def yearDays (year : Nat) : Nat :=
  (year - 1) * 365 + (year - 1) / 4 - (year - 1) / 100 + (year - 1) / 400

/-- `monthDays year month` is the number of days of `year` before `month`. -/
def monthDays (year month : Nat) : Nat :=
  (List.range (month - 1)).foldl (fun days earlier => days + monthLength year (earlier + 1)) 0

/-- `date.ordinal` is the number of days up to `date`. -/
def Date.ordinal (date : Date) : Nat :=
  yearDays date.year + monthDays date.year date.month + date.day

/-- `moment.instant?` is the universal time of `moment` in microseconds, if it has an offset. -/
def Moment.instant? (moment : Moment) : Option Int :=
  moment.offset.map fun offset =>
    let minutes : Int := (moment.date.ordinal * 24 + moment.hour) * 60 + moment.minute - offset
    (minutes * 60 + moment.second) * 1000000 + moment.microsecond

def padded (width n : Nat) : List Char :=
  let digits := naturalText n
  List.replicate (width - digits.length) '0' ++ digits

/-- `date.text` is `date` as year, month and day. -/
def Date.text (date : Date) : List Char :=
  padded 4 date.year ++ '-' :: padded 2 date.month ++ '-' :: padded 2 date.day

def offsetText (minutes : Int) : List Char :=
  (if minutes < 0 then '-' else '+') :: padded 2 (minutes.natAbs / 60) ++
    ':' :: padded 2 (minutes.natAbs % 60)

/-- `moment.text` is `moment` as date, time and offset; microseconds are written unless zero. -/
def Moment.text (moment : Moment) : List Char :=
  moment.date.text ++ ' ' :: padded 2 moment.hour ++ ':' :: padded 2 moment.minute ++
    ':' :: padded 2 moment.second ++
    (if moment.microsecond = 0 then [] else '.' :: padded 6 moment.microsecond) ++
    (moment.offset.map offsetText).getD []

/-- `spanText minutes` is a span of time as messages show it: in days and seconds, where only the
days may be negative. -/
def spanText (minutes : Int) : String :=
  let days := minutes.fdiv 1440
  let seconds := minutes.fmod 1440 * 60
  let part := fun (name : String) (n : Int) =>
    if n = 0 then [] else [name ++ "=" ++ String.ofList (integerText n)]
  let parts := part "days" days ++ part "seconds" seconds
  "datetime.timedelta(" ++ (if parts.isEmpty then "0" else ", ".intercalate parts) ++ ")"

def argumentsText (numbers : List Nat) : String :=
  ", ".intercalate (numbers.map fun n => String.ofList (naturalText n))

def Date.shown (date : Date) : String :=
  "datetime.date(" ++ argumentsText [date.year, date.month, date.day] ++ ")"

/-- `moment.shown` is `moment` as it is shown within a collection; trailing zeros are left out. -/
def Moment.shown (moment : Moment) : String :=
  let late :=
    if moment.microsecond != 0 then [moment.second, moment.microsecond]
    else if moment.second != 0 then [moment.second]
    else []
  let numbers :=
    [moment.date.year, moment.date.month, moment.date.day, moment.hour, moment.minute] ++ late
  let zone :=
    match moment.offset with
    | none => ""
    | some 0 => ", tzinfo=datetime.timezone.utc"
    | some minutes => ", tzinfo=datetime.timezone(" ++ spanText minutes ++ ")"
  "datetime.datetime(" ++ argumentsText numbers ++ zone ++ ")"

def Flaw.message : Flaw → String
  | .year n => "year " ++ String.ofList (naturalText n) ++ " is out of range"
  | .month => "month must be in 1..12"
  | .day => "day is out of range for month"
  | .hour => "hour must be in 0..23"
  | .minute => "minute must be in 0..59"
  | .second => "second must be in 0..59"
  | .offset minutes =>
    "offset must be a timedelta strictly between -timedelta(hours=24) and timedelta(hours=24), " ++
      "not " ++ spanText minutes ++ "."

end AssemblyInfo.Calendar

import ArgosCore.Foundations.IsoTime

/-! Reading ISO 8601 text as a datetime: calendar dates and week dates, basic and
extended, any separator before the time, fractional seconds and an offset. -/

namespace IsoTime

/-- A wall clock reading in microseconds from the epoch, and how far it is ahead of
UTC; a naive datetime has no offset. -/
structure DateTime where
  wall : Int
  offset : Option Int
  deriving DecidableEq, Repr

def DateTime.instant? (time : DateTime) : Option Instant := time.offset.map (time.wall - ·)

def isLeap (year : Nat) : Bool := year % 4 = 0 && (year % 100 ≠ 0 || year % 400 = 0)

def daysInMonth (year month : Nat) : Nat :=
  if month = 2 then (if isLeap year then 29 else 28)
  else if month ∈ [4, 6, 9, 11] then 30
  else 31

def daysBeforeMonth (year month : Nat) : Nat :=
  (List.range (month - 1)).foldl (fun days before => days + daysInMonth year (before + 1)) 0

def daysBeforeYear (year : Nat) : Nat :=
  let before := year - 1
  before * 365 + before / 4 - before / 100 + before / 400

/-- Days since the day before 1 January of the year 1. -/
def ordinal (year month day : Nat) : Nat := daysBeforeYear year + daysBeforeMonth year month + day

def epochOrdinal : Nat := 719163

/-- 31 December 9999. -/
def maxOrdinal : Nat := 3652059

def calendarDate (year month day : Nat) : Option Nat :=
  if 1 ≤ year ∧ 1 ≤ month ∧ month ≤ 12 ∧ 1 ≤ day ∧ day ≤ daysInMonth year month then some (ordinal year month day)
  else none

/-- The day of an ISO week; a year has 53 weeks when it starts on a Thursday, or is a
leap year that starts on a Wednesday. -/
def weekDate (year week day : Nat) : Option Nat :=
  let newYear := ordinal year 1 1
  let weekday := (newYear + 6) % 7
  let long : Bool := weekday = 3 || (weekday = 2 && isLeap year)
  let firstMonday := if weekday > 3 then newYear + 7 - weekday else newYear - weekday
  let found := firstMonday + (week - 1) * 7 + (day - 1)
  if 1 ≤ year ∧ 1 ≤ week ∧ (week ≤ 52 ∨ week = 53 ∧ long) ∧ 1 ≤ day ∧ day ≤ 7 ∧ found ≤ maxOrdinal then some found
  else none

def readDigits (width : Nat) (chars : List Char) : Option (Nat × List Char) :=
  let digits := chars.take width
  if digits.length = width ∧ digits.all Char.isDigit then
    some (digits.foldl (fun value c => value * 10 + (c.toNat - '0'.toNat)) 0, chars.drop width)
  else none

/-- A hyphen, in the extended format. -/
def readHyphen (extended : Bool) (chars : List Char) : Option (List Char) :=
  if extended then chars.head?.filter (· = '-') |>.map fun _ => chars.tail else some chars

def readDate (chars : List Char) : Option Nat := do
  let (year, rest) ← readDigits 4 chars
  let extended : Bool := rest.head? = some '-'
  let rest ← readHyphen extended rest
  if rest.head? = some 'W' then
    let (week, rest) ← readDigits 2 rest.tail
    if rest = [] then weekDate year week 1
    else
      let rest ← readHyphen extended rest
      let (day, rest) ← readDigits 1 rest
      if rest = [] then weekDate year week day else none
  else
    let (month, rest) ← readDigits 2 rest
    let rest ← readHyphen extended rest
    let (day, rest) ← readDigits 2 rest
    if rest = [] then calendarDate year month day else none

/-- The microseconds of a fraction of a second; digits after the sixth are dropped. -/
def readFraction (chars : List Char) : Option Nat :=
  if chars ≠ [] ∧ chars.all Char.isDigit then
    (readDigits 6 (chars ++ List.replicate 6 '0')).map Prod.fst
  else none

structure Clock where
  hours : Nat
  minutes : Nat
  seconds : Nat
  microseconds : Nat

def Clock.total (clock : Clock) : Int :=
  ((clock.hours * 60 + clock.minutes) * 60 + clock.seconds) * 1000000 + clock.microseconds

def readColon (extended : Bool) (chars : List Char) : Option (List Char) :=
  if extended then chars.head?.filter (· = ':') |>.map fun _ => chars.tail else some chars

def readClock (chars : List Char) : Option Clock := do
  let (hours, rest) ← readDigits 2 chars
  if rest = [] then return ⟨hours, 0, 0, 0⟩
  let extended : Bool := rest.head? = some ':'
  let (minutes, rest) ← readDigits 2 (← readColon extended rest)
  if rest = [] then return ⟨hours, minutes, 0, 0⟩
  let (seconds, rest) ← readDigits 2 (← readColon extended rest)
  match rest with
  | [] => return ⟨hours, minutes, seconds, 0⟩
  | point :: fraction =>
    if point = '.' || point = ',' then return ⟨hours, minutes, seconds, ← readFraction fraction⟩ else none

/-- An offset from UTC: `Z` at the end, or a sign and a clock reading below a day. -/
def readOffset : List Char → Option (Option Int)
  | [] => some none
  | ['Z'] => some (some 0)
  | sign :: chars =>
    if sign = 'Z' then none
    else do
      let clock ← readClock chars
      if clock.total < 86400000000 then return some (if sign = '-' then -clock.total else clock.total) else none

def isOffsetStart (c : Char) : Bool := c = '+' || c = '-' || c = 'Z'

def readTime (chars : List Char) : Option (Int × Option Int) := do
  let clock ← readClock (chars.takeWhile (!isOffsetStart ·))
  let offset ← readOffset (chars.dropWhile (!isOffsetStart ·))
  if clock.hours < 24 ∧ clock.minutes < 60 ∧ clock.seconds < 60 then return (clock.total, offset) else none

/-- Where the date ends. A week date may or may not name a day: after `YYYYWww` an odd
number of digits does, and in `YYYY-Www-##` the hyphen is taken for the separator. -/
def dateLength (chars : List Char) : Option Nat :=
  if chars.length = 7 then some 7
  else if chars[4]? = some '-' then
    if chars[5]? = some 'W' then
      if chars[8]? = some '-' then
        if chars.length = 9 then none
        else if chars[10]?.any Char.isDigit then some 8
        else some 10
      else some 8
    else some 10
  else if chars[4]? = some 'W' then
    let digitsEnd := 7 + ((chars.drop 7).takeWhile Char.isDigit).length
    if digitsEnd < 9 then some digitsEnd
    else if digitsEnd % 2 = 0 then some 7
    else some 8
  else some 8

/-- `datetime.fromisoformat(text)` -/
def fromisoformat (text : String) : Option DateTime := do
  let chars := text.toList
  if chars.length < 7 then none
  else
    let length ← dateLength chars
    let day ← readDate (chars.take length)
    let midnight : Int := ((day : Int) - epochOrdinal) * 86400000000
    match chars.drop length with
    | [] => return ⟨midnight, none⟩
    | _ :: time =>
      let (timeOfDay, offset) ← readTime time
      return ⟨midnight + timeOfDay, offset⟩

example : (fromisoformat "2026-08-05T11:00:00.5+02:00").bind DateTime.instant? = some 1785920400500000 := by decide

end IsoTime

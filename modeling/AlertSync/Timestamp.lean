import AlertSync.Numeral.Decimal
import AlertSync.Text.Blank

/-!
# Timestamps

A moment in Universal Time, to the nanosecond: a day of the Gregorian calendar and a time of that
day. A minute may have a 61st second, which is how a leap second is told apart from the second
after it.

`Timestamp.parse?` reads RFC 3339 and a little more (blanks between the parts, a space for the `T`,
any number of digits of a second, years with a sign) and moves the moment to Universal Time;
`Timestamp.text` writes it with as few of 0, 3, 6 or 9 digits of the second as lose nothing.
-/

namespace AlertSync

/-- Whether a year of the Gregorian calendar has 366 days. -/
def isLeapYear (year : Int) : Bool := year % 4 == 0 && (year % 100 != 0 || year % 400 == 0)

/-- The number of days of a month. -/
def daysIn (year : Int) (month : Nat) : Nat :=
  if month = 2 then (if isLeapYear year then 29 else 28)
  else if month = 4 || month = 6 || month = 9 || month = 11 then 30
  else 31

/-- A day of the calendar. -/
structure CalendarDay where
  year : Int
  month : Nat
  day : Nat
  deriving DecidableEq, Repr

namespace CalendarDay

/-- The first and the last year that a timestamp can fall into. -/
def firstYear : Int := -262143
def lastYear : Int := 262142

/-- Whether there is such a day within the years of timestamps. -/
def isReal (d : CalendarDay) : Bool :=
  decide (firstYear ≤ d.year) && decide (d.year ≤ lastYear) && decide (1 ≤ d.month) &&
    decide (d.month ≤ 12) && decide (1 ≤ d.day) && decide (d.day ≤ daysIn d.year d.month)

/-- The day after a day. -/
def next (d : CalendarDay) : CalendarDay :=
  if d.day < daysIn d.year d.month then { d with day := d.day + 1 }
  else if d.month < 12 then { d with month := d.month + 1, day := 1 }
  else { year := d.year + 1, month := 1, day := 1 }

/-- The day before a day. -/
def previous (d : CalendarDay) : CalendarDay :=
  if 1 < d.day then { d with day := d.day - 1 }
  else if 1 < d.month then
    { d with month := d.month - 1, day := daysIn d.year (d.month - 1) }
  else { year := d.year - 1, month := 12, day := 31 }

end CalendarDay

/-- A time of day. -/
structure DayTime where
  hour : Nat
  minute : Nat
  /-- The second of the minute; 60 in a leap second. -/
  second : Nat
  nano : Nat
  deriving DecidableEq, Repr

/-- Whether there is such a time of day. -/
def DayTime.isReal (t : DayTime) : Bool :=
  decide (t.hour < 24) && decide (t.minute < 60) && decide (t.second ≤ 60) &&
    decide (t.nano < 1000000000)

/-- A moment in Universal Time. -/
structure Timestamp where
  day : CalendarDay
  time : DayTime
  day_isReal : day.isReal = true
  time_isReal : time.isReal = true
  deriving DecidableEq

namespace Timestamp

/-- The moment on a day at a time of day, if both exist. -/
def of? (day : CalendarDay) (time : DayTime) : Option Timestamp :=
  if h : day.isReal = true ∧ time.isReal = true then some ⟨day, time, h.1, h.2⟩ else none

/-- The moment in Universal Time at which clocks that are `offset` minutes ahead of it show the
given day and time. The offset is less than a day. -/
def ofLocal? (day : CalendarDay) (time : DayTime) (offset : Int) : Option Timestamp :=
  let minutes : Int := time.hour * 60 + time.minute - offset
  let clock := (minutes % 1440).toNat
  let moved := { time with hour := clock / 60, minute := clock % 60 }
  if minutes < 0 then of? day.previous moved
  else if 1440 ≤ minutes then of? day.next moved
  else of? day moved

/-- The moment as many days later. -/
def plusDays (t : Timestamp) : Nat → Option Timestamp
  | 0 => some t
  | n + 1 => (t.plusDays n).bind fun u => of? u.day.next u.time

/-! ## Writing -/

/-- The digits of a year: four, and a sign and more digits only where four do not do. -/
def yearChars (year : Int) : List Char :=
  if 0 ≤ year ∧ year ≤ 9999 then Numeral.padded 4 year.toNat
  else (if year < 0 then '-' else '+') :: Numeral.padded 4 year.natAbs

/-- The fraction of a second with as few groups of three digits as lose nothing. -/
def fractionChars (nano : Nat) : List Char :=
  if nano = 0 then []
  else if nano % 1000000 = 0 then '.' :: Numeral.padded 3 (nano / 1000000)
  else if nano % 1000 = 0 then '.' :: Numeral.padded 6 (nano / 1000)
  else '.' :: Numeral.padded 9 nano

/-- The characters of a timestamp. -/
def chars (t : Timestamp) : List Char :=
  yearChars t.day.year ++ '-' :: Numeral.padded 2 t.day.month ++
    '-' :: Numeral.padded 2 t.day.day ++ 'T' :: Numeral.padded 2 t.time.hour ++
    ':' :: Numeral.padded 2 t.time.minute ++ ':' :: Numeral.padded 2 t.time.second ++
    fractionChars t.time.nano ++ ['Z']

/-- The text of a timestamp. -/
def text (t : Timestamp) : String := String.ofList t.chars

/-! ## Reading -/

/-- A number of one to `width` digits, and what follows it. -/
def number? (width : Nat) (cs : List Char) : Option (Nat × List Char) :=
  let digits := (cs.take width).takeWhile Char.isDigit
  if digits.isEmpty then none else some (Numeral.ofDecimal digits, cs.drop digits.length)

/-- A year of up to four digits, or of any number of digits after a sign. -/
def year? (cs : List Char) : Option (Int × List Char) :=
  match cs with
  | '-' :: r => (number? r.length r).map fun (n, r) => (-(n : Int), r)
  | '+' :: r => (number? r.length r).map fun (n, r) => ((n : Int), r)
  | _ => (number? 4 cs).map fun (n, r) => ((n : Int), r)

/-- What follows a character, if the text begins with it after blanks. -/
def after? (c : Char) (cs : List Char) : Option (List Char) :=
  match Text.dropBlanks cs with
  | d :: r => if d = c then some r else none
  | [] => none

/-- A two-digit number after blanks. -/
def pair? (cs : List Char) : Option (Nat × List Char) := number? 2 (Text.dropBlanks cs)

/-- The nanoseconds of a fraction, of whose digits the first nine count. -/
def fraction? (cs : List Char) : Option (Nat × List Char) :=
  match cs with
  | '.' :: r =>
    let digits := r.takeWhile Char.isDigit
    if digits.isEmpty then none
    else
      let kept := digits.take 9
      some (Numeral.ofDecimal kept * Nat.pow 10 (9 - kept.length), r.drop digits.length)
  | _ => some (0, cs)

/-- The minutes by which a zone is ahead of Universal Time. -/
def offset? (cs : List Char) : Option (Int × List Char) :=
  match cs with
  | 'Z' :: r | 'z' :: r => some (0, r)
  | u :: t :: c :: r =>
    if (u = 'U' ∨ u = 'u') ∧ (t = 'T' ∨ t = 't') ∧ (c = 'C' ∨ c = 'c') then some (0, r)
    else
      let sign? : Option Int :=
        if u = '+' then some 1 else if u = '-' ∨ u = '\u2212' then some (-1) else none
      match sign? with
      | none => none
      | some sign =>
        if t.isDigit ∧ c.isDigit then
          match r.dropWhile (fun x => x = ':' || Text.isBlank x) with
          | m :: n :: rest =>
            let minutes := Numeral.ofDecimal [m, n]
            let hours := Numeral.ofDecimal [t, c]
            if m.isDigit ∧ n.isDigit ∧ minutes < 60 ∧ hours < 24 then
              some (sign * (hours * 60 + minutes : Nat), rest)
            else none
          | _ => none
        else none
  | _ => none

/-- Reads a timestamp. -/
def parse? (s : String) : Option Timestamp := do
  let (year, cs) ← year? (Text.dropBlanks s.toList)
  let cs ← after? '-' cs
  let (month, cs) ← pair? cs
  let cs ← after? '-' cs
  let (day, cs) ← pair? cs
  let cs ← match cs with
    | c :: r => if c = 'T' ∨ c = 't' ∨ c = ' ' then some r else none
    | [] => none
  let (hour, cs) ← pair? cs
  let cs ← after? ':' cs
  let (minute, cs) ← pair? cs
  let cs ← after? ':' cs
  let (second, cs) ← pair? cs
  let (nano, cs) ← fraction? cs
  let (offset, cs) ← offset? (Text.dropBlanks cs)
  if Text.dropBlanks cs ≠ [] then none
  else if DayTime.isReal ⟨hour, minute, second, nano⟩ && CalendarDay.isReal ⟨year, month, day⟩ then
    ofLocal? ⟨year, month, day⟩ ⟨hour, minute, second, nano⟩ offset
  else none

end Timestamp

end AlertSync

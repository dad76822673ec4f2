import Dialogue.Number.Reading
import Dialogue.Text.Blank

/-! # Points in time

A session carries the times of its creation and of its last change, in universal time to the
nanosecond.  Texts give a date, a time of day and an offset from universal time; they are read in a
relaxed form, which admits blanks between the parts and years of any length, and in a strict one.
Written texts are always in universal time.

* `ClockTime` — a date and a time of day, which may fall into a leap second.
* `Timestamp` — one that exists; `Timestamp.read?` and `Timestamp.text` are its two directions.
* `readStrict?` — the local date and time of a strictly written text.
* `ClockTime.spoken` — the time of day as it is said, `9:00 AM`.
-/

namespace Dialogue

/-! ## Dates and times of day -/

/-- A date and a time of day. -/
structure ClockTime where
  year : Int
  month : Nat
  day : Nat
  hour : Nat
  minute : Nat
  second : Nat
  nanos : Nat
deriving DecidableEq, Repr

/-- Whether a year has a leap day. -/
def isLeapYear (year : Int) : Bool := year % 4 == 0 && (year % 100 != 0 || year % 400 == 0)

/-- The number of days of a month. -/
def daysInMonth (year : Int) (month : Nat) : Nat :=
  if month == 2 then if isLeapYear year then 29 else 28
  else if month == 4 || month == 6 || month == 9 || month == 11 then 30
  else 31

namespace ClockTime

/-- Whether the date and the time exist.  Second 60 is a leap second. -/
def isValid (t : ClockTime) : Bool :=
  -262143 ≤ t.year && t.year ≤ 262142 && 1 ≤ t.month && t.month ≤ 12 && 1 ≤ t.day
    && t.day ≤ daysInMonth t.year t.month && t.hour < 24 && t.minute < 60 && t.second ≤ 60
    && t.nanos < tenPow 9

/-- The day number of a date: zero on the first of March of year zero.  Years count from March, so
that a leap day is the last of its year. -/
def dayNumber (t : ClockTime) : Int :=
  let year := if t.month ≤ 2 then t.year - 1 else t.year
  let month := (t.month + 9) % 12
  let dayOfYear : Nat := (153 * month + 2) / 5 + t.day - 1
  year * 365 + year.fdiv 4 - year.fdiv 100 + year.fdiv 400 + dayOfYear

/-- The date with a day number, its time of day that of `t`. -/
def withDayNumber (t : ClockTime) (n : Int) : ClockTime :=
  let era := n.fdiv 146097
  let dayOfEra := (n - era * 146097).toNat
  let yearOfEra := (dayOfEra - dayOfEra / 1460 + dayOfEra / 36524 - dayOfEra / 146096) / 365
  let dayOfYear := dayOfEra - (365 * yearOfEra + yearOfEra / 4 - yearOfEra / 100)
  let shifted := (5 * dayOfYear + 2) / 153
  let month := if shifted < 10 then shifted + 3 else shifted - 9
  let year := era * 400 + yearOfEra
  { t with
    year := if month ≤ 2 then year + 1 else year
    month := month
    day := dayOfYear - (153 * shifted + 2) / 5 + 1 }

/-- The time a number of minutes earlier. -/
def minusMinutes (t : ClockTime) (offset : Int) : ClockTime :=
  if offset == 0 then t
  else
    let minutes := t.dayNumber * 1440 + t.hour * 60 + t.minute - offset
    let ofDay := (minutes % 1440).toNat
    { t.withDayNumber (minutes.fdiv 1440) with hour := ofDay / 60, minute := ofDay % 60 }

end ClockTime

/-! ## Reading -/

/-- A number of `least` to `most` digits at the front of a text. -/
def digitsAtFront? (least most : Nat) (cs : List Char) : Option (Nat × List Char) :=
  let ds := (cs.take most).takeWhile Char.isDigit
  if ds.length < least then none else some (digitsValue ds, cs.drop ds.length)

/-- A fixed character at the front of a text. -/
def charAtFront? (c : Char) : List Char → Option (List Char)
  | d :: cs => if c == d then some cs else none
  | [] => none

/-- The fraction of a second, in nanoseconds, if there is one.  Digits after the ninth are
dropped. -/
def nanosAtFront? : List Char → Option (Nat × List Char)
  | '.' :: cs => do
    let (n, rest) ← digitsAtFront? 1 9 cs
    return (n * tenPow (9 - (cs.length - rest.length)), rest.dropWhile Char.isDigit)
  | cs => some (0, cs)

/-- The date and the time between which a letter `T` or a space stands.  `skip` passes over what may
stand before numbers and separators, `year?` reads the year, and the other numbers have two digits,
or at least `least` of them. -/
def clockTimeAtFront? (skip : List Char → List Char)
    (year? : List Char → Option (Int × List Char)) (least : Nat) (cs : List Char) :
    Option (ClockTime × List Char) := do
  let (year, cs) ← year? (skip cs)
  let (month, cs) ← digitsAtFront? least 2 (skip (← charAtFront? '-' (skip cs)))
  let (day, cs) ← digitsAtFront? least 2 (skip (← charAtFront? '-' (skip cs)))
  let cs ←
    match cs with
    | 't' :: cs | 'T' :: cs | ' ' :: cs => some cs
    | _ => none
  let (hour, cs) ← digitsAtFront? least 2 (skip cs)
  let (minute, cs) ← digitsAtFront? least 2 (skip (← charAtFront? ':' (skip cs)))
  let (second, cs) ← digitsAtFront? least 2 (skip (← charAtFront? ':' (skip cs)))
  let (nanos, cs) ← nanosAtFront? cs
  return (⟨year, month, day, hour, minute, second, nanos⟩, cs)

/-- The offset from universal time, in minutes: `Z`, or a sign, two digits of hours and two of
minutes, between which `separator` reads. -/
def offsetAtFront? (separator : List Char → Option (List Char)) :
    List Char → Option (Int × List Char)
  | [] => none
  | c :: cs =>
    if c == 'Z' || c == 'z' then some (0, cs)
    else if c == '+' || c == '-' || c == '−' then do
      let (hours, cs) ← digitsAtFront? 2 2 cs
      let (minutes, cs) ← digitsAtFront? 2 2 (← separator cs)
      if minutes ≥ 60 || hours ≥ 24 then none
      else
        let offset : Int := hours * 60 + minutes
        return (if c == '+' then offset else -offset, cs)
    else none

/-- A year with a sign and any number of digits, or without one and up to four digits. -/
def relaxedYear? : List Char → Option (Int × List Char)
  | '-' :: cs => (digitsAtFront? 1 cs.length cs).map fun (n, cs) => (-(n : Int), cs)
  | '+' :: cs => (digitsAtFront? 1 cs.length cs).map fun (n, cs) => ((n : Int), cs)
  | cs => (digitsAtFront? 1 4 cs).map fun (n, cs) => ((n : Int), cs)

/-- The text without blanks at its front. -/
def skipBlanks (cs : List Char) : List Char := cs.dropWhile Text.isBlank

/-- The local time and the offset of a relaxed text. -/
def readRelaxed? (text : String) : Option (ClockTime × Int) := do
  let (t, cs) ← clockTimeAtFront? skipBlanks relaxedYear? 1 text.toList
  let cs := skipBlanks cs
  let (offset, cs) ←
    if (cs.take 3).map Char.toUpper == ['U', 'T', 'C'] then some (0, cs.drop 3)
    else offsetAtFront? (fun cs => some (cs.dropWhile fun c => c == ':' || Text.isBlank c)) cs
  if (skipBlanks cs).isEmpty then return (t, offset) else none

/-- A year of four digits. -/
def strictYear? (cs : List Char) : Option (Int × List Char) :=
  (digitsAtFront? 4 4 cs).map fun (n, cs) => ((n : Int), cs)

/-- The local time of a strict text: all numbers padded with zeros and nothing between the parts. -/
def readStrict? (text : String) : Option ClockTime := do
  let (t, cs) ← clockTimeAtFront? id strictYear? 2 text.toList
  let (_, cs) ← offsetAtFront? (charAtFront? ':') cs
  if cs.isEmpty && t.isValid then return t else none

/-! ## Timestamps -/

/-- A point in time. -/
structure Timestamp where
  time : ClockTime
  valid : time.isValid = true
deriving DecidableEq

namespace Timestamp

/-- The point in time of a date and time, if they exist. -/
def ofClockTime? (t : ClockTime) : Option Timestamp :=
  if h : t.isValid = true then some ⟨t, h⟩ else none

/-- The start of the count of seconds that is common in file systems, used where no time is
known. -/
def epoch : Timestamp := ⟨⟨1970, 1, 1, 0, 0, 0, 0⟩, by decide⟩

instance : Inhabited Timestamp := ⟨epoch⟩

/-- The point in time of a text. -/
def read? (text : String) : Option Timestamp := do
  let (t, offset) ← readRelaxed? text
  if t.isValid then ofClockTime? (t.minusMinutes offset) else none

/-- The digits of a number, filled up with zeros to a width. -/
def padded (width n : Nat) : List Char :=
  let ds := digitChars n
  List.replicate (width - ds.length) '0' ++ ds

/-- The text of a year: four digits, or a sign and at least four. -/
def yearText (year : Int) : List Char :=
  if 0 ≤ year && year ≤ 9999 then padded 4 year.natAbs
  else (if year < 0 then '-' else '+') :: padded 4 year.natAbs

/-- The fraction of a second: none, or three, six or nine digits, as many as are needed. -/
def nanosText (nanos : Nat) : List Char :=
  if nanos == 0 then []
  else if nanos % tenPow 6 == 0 then '.' :: padded 3 (nanos / tenPow 6)
  else if nanos % tenPow 3 == 0 then '.' :: padded 6 (nanos / tenPow 3)
  else '.' :: padded 9 nanos

/-- The text of a point in time. -/
def text (s : Timestamp) : String :=
  let t := s.time
  String.ofList
    (yearText t.year ++ '-' :: padded 2 t.month ++ '-' :: padded 2 t.day ++ 'T' :: padded 2 t.hour
      ++ ':' :: padded 2 t.minute ++ ':' :: padded 2 t.second ++ nanosText t.nanos ++ ['Z'])

end Timestamp

/-- The time of day as it is said, on a clock of twelve hours. -/
def ClockTime.spoken (t : ClockTime) : String :=
  let hour := if t.hour % 12 == 0 then 12 else t.hour % 12
  String.ofList (digitChars hour ++ ':' :: Timestamp.padded 2 t.minute)
    ++ if t.hour < 12 then " AM" else " PM"

end Dialogue

/-!
# Calendar dates

Seconds since the beginning of 1970 as a date of the Gregorian calendar and a
time of day, all in Coordinated Universal Time, and the text of a date by
conversion letters.
-/

namespace LuaSession

/-- A date and a time of day. The fields may be out of range, as in the 35th of
a month, until the date is normalized. -/
structure Calendar where
  year : Int
  /-- From 1 for January. -/
  month : Int
  day : Int
  hour : Int
  minute : Int
  second : Int
  deriving DecidableEq, Repr, Inhabited

namespace Calendar

/-- How many days lie between the beginning of 1970 and a day of a month. -/
def daysFromCivil (year month day : Int) : Int :=
  let y := if month ≤ 2 then year - 1 else year
  let era := Int.fdiv y 400
  let yearOfEra := y - era * 400
  let monthFromMarch := Int.fmod (month + 9) 12
  let dayOfYear := (153 * monthFromMarch + 2) / 5 + day - 1
  let dayOfEra := yearOfEra * 365 + yearOfEra / 4 - yearOfEra / 100 + dayOfYear
  era * 146097 + dayOfEra - 719468

/-- The year, month and day of a day, counted from the beginning of 1970. -/
def civilFromDays (days : Int) : Int × Int × Int :=
  let z := days + 719468
  let era := Int.fdiv z 146097
  let dayOfEra := z - era * 146097
  let yearOfEra := (dayOfEra - dayOfEra / 1460 + dayOfEra / 36524 - dayOfEra / 146096) / 365
  let dayOfYear := dayOfEra - (365 * yearOfEra + yearOfEra / 4 - yearOfEra / 100)
  let monthFromMarch := (5 * dayOfYear + 2) / 153
  let day := dayOfYear - (153 * monthFromMarch + 2) / 5 + 1
  let month := if monthFromMarch < 10 then monthFromMarch + 3 else monthFromMarch - 9
  let year := yearOfEra + era * 400
  (if month ≤ 2 then year + 1 else year, month, day)

/-- The seconds of a date. -/
def toSeconds (c : Calendar) : Int :=
  let months := c.year * 12 + (c.month - 1)
  let year := Int.fdiv months 12
  let month := Int.fmod months 12 + 1
  (daysFromCivil year month 1 + (c.day - 1)) * 86400 + c.hour * 3600 + c.minute * 60 + c.second

/-- The date of a number of seconds. -/
def ofSeconds (seconds : Int) : Calendar :=
  let days := Int.fdiv seconds 86400
  let rest := Int.fmod seconds 86400
  let (year, month, day) := civilFromDays days
  { year, month, day, hour := rest / 3600, minute := rest % 3600 / 60, second := rest % 60 }

/-- The day of the week, zero for Sunday. -/
def weekday (c : Calendar) : Int := Int.fmod (daysFromCivil c.year c.month c.day + 4) 7

/-- The day of the year, zero for the first. -/
def yearday (c : Calendar) : Int :=
  daysFromCivil c.year c.month c.day - daysFromCivil c.year 1 1

/-- The names of the days of the week. -/
def dayNames : List String :=
  ["Sunday", "Monday", "Tuesday", "Wednesday", "Thursday", "Friday", "Saturday"]

/-- The names of the months. -/
def monthNames : List String :=
  ["January", "February", "March", "April", "May", "June", "July", "August", "September",
    "October", "November", "December"]

/-- A number with a fill character up to a width. -/
def padded (fill : Char) (width : Nat) (n : Int) : String :=
  let digits := toString n.natAbs
  let sign := if n < 0 then "-" else ""
  sign ++ String.ofList (List.replicate (width - digits.length - sign.length) fill) ++ digits

/-- Two digits. -/
def two (n : Int) : String := padded '0' 2 n

/-- The name of the day of the week. -/
def dayName (c : Calendar) : String := dayNames.getD c.weekday.toNat "?"

/-- The name of the month. -/
def monthName (c : Calendar) : String := monthNames.getD (c.month - 1).toNat "?"

/-- The hour of a twelve-hour clock. -/
def hour12 (c : Calendar) : Int := if c.hour % 12 == 0 then 12 else c.hour % 12

/-- Is a year a leap year? -/
def isLeap (year : Int) : Bool :=
  Int.fmod year 4 == 0 && (Int.fmod year 100 != 0 || Int.fmod year 400 == 0)

/-- How many weeks, each with its Monday first and its Thursday in the year, have
begun, and the year they are counted in. -/
def isoWeek (c : Calendar) : Int × Int :=
  let fromMonday := Int.fmod (c.weekday + 6) 7
  let week := Int.fdiv (c.yearday - fromMonday + 10) 7
  let weeksIn (year : Int) : Int :=
    let first := Int.fmod (daysFromCivil year 1 1 + 3) 7
    if first == 3 || (first == 2 && isLeap year) then 53 else 52
  if week < 1 then (weeksIn (c.year - 1), c.year - 1)
  else if week > weeksIn c.year then (1, c.year + 1)
  else (week, c.year)

/-- The text of a date by a conversion letter. -/
def convert (c : Calendar) (letter : Char) : String :=
  let time := s!"{two c.hour}:{two c.minute}:{two c.second}"
  let slashes := s!"{two c.month}/{two c.day}/{two (Int.fmod c.year 100)}"
  let dayText := padded ' ' 2 c.day
  match letter with
  | 'a' => (c.dayName.take 3).toString
  | 'A' => c.dayName
  | 'b' | 'h' => (c.monthName.take 3).toString
  | 'B' => c.monthName
  | 'c' => s!"{c.dayName.take 3} {c.monthName.take 3} {dayText} {time} {c.year}"
  | 'C' => two (Int.fdiv c.year 100)
  | 'd' => two c.day
  | 'D' => slashes
  | 'e' => dayText
  | 'F' => s!"{c.year}-{two c.month}-{two c.day}"
  | 'g' => two (Int.fmod c.isoWeek.2 100)
  | 'G' => toString c.isoWeek.2
  | 'H' => two c.hour
  | 'I' => two c.hour12
  | 'j' => padded '0' 3 (c.yearday + 1)
  | 'm' => two c.month
  | 'M' => two c.minute
  | 'n' => "\n"
  | 'p' => if c.hour < 12 then "AM" else "PM"
  | 'r' => s!"{two c.hour12}:{two c.minute}:{two c.second} " ++ (if c.hour < 12 then "AM" else "PM")
  | 'R' => s!"{two c.hour}:{two c.minute}"
  | 's' => toString c.toSeconds
  | 'S' => two c.second
  | 't' => "\t"
  | 'T' | 'X' => time
  | 'u' => toString (if c.weekday == 0 then 7 else c.weekday)
  | 'U' => two (Int.fdiv (c.yearday + 7 - c.weekday) 7)
  | 'V' => two c.isoWeek.1
  | 'w' => toString c.weekday
  | 'W' => two (Int.fdiv (c.yearday + 7 - Int.fmod (c.weekday + 6) 7) 7)
  | 'x' => slashes
  | 'y' => two (Int.fmod c.year 100)
  | 'Y' => toString c.year
  | 'z' => "+0000"
  | 'Z' => "UTC"
  | _ => "%"

/-- The conversion letters. -/
def letters : List Char := "aAbBcCdDeFgGhHIjmMnprRStTuUVwWxXyYzZ%".toList

/-- The letters that may follow an `E`. -/
def lettersAfterE : List Char := "cCxXyY".toList

/-- The letters that may follow an `O`. -/
def lettersAfterO : List Char := "deHImMSuUVwWy".toList

end Calendar

end LuaSession

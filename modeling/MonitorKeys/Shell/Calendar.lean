import MonitorKeys.Shell.Raw

/-!
# The calendar

Moments are counted in seconds from the start of the year 1970 in universal time.  A `Date` says on
which day and at which time of the day a moment is, and `Date.format` writes it by a format in which
letters stand for its parts.
-/

namespace MonitorKeys.Shell

/-- A moment by its parts. -/
structure Date where
  year : Int
  month : Nat
  day : Nat
  hour : Nat
  minute : Nat
  second : Nat
  /-- The day of the week; Sunday is zero. -/
  weekday : Nat
  /-- The day of the year; the first one is zero. -/
  yearday : Nat
  deriving DecidableEq, Repr

namespace Date

/-- How many days before the start of 1970 or after it a day is. -/
def daysOf (year : Int) (month day : Nat) : Int :=
  -- Years are counted from March here, so that a leap day is the last one.
  let y := if month ≤ 2 then year - 1 else year
  let era := y / 400
  let yearOfEra := y - era * 400
  let m : Int := (month + 9) % 12
  let dayOfYear := (153 * m + 2) / 5 + day - 1
  let dayOfEra := yearOfEra * 365 + yearOfEra / 4 - yearOfEra / 100 + dayOfYear
  era * 146097 + dayOfEra - 719468

/-- The parts of a moment. -/
def ofSeconds (seconds : Int) : Date :=
  let days := seconds / 86400
  let time := (seconds % 86400).toNat
  let z := days + 719468
  let era := z / 146097
  let dayOfEra := z - era * 146097
  let yearOfEra := (dayOfEra - dayOfEra / 1460 + dayOfEra / 36524 - dayOfEra / 146096) / 365
  let dayOfYear := dayOfEra - (365 * yearOfEra + yearOfEra / 4 - yearOfEra / 100)
  let m := (5 * dayOfYear + 2) / 153
  let day := dayOfYear - (153 * m + 2) / 5 + 1
  let month := if m < 10 then m + 3 else m - 9
  let year := yearOfEra + era * 400 + if month ≤ 2 then 1 else 0
  { year, month := month.toNat, day := day.toNat
    hour := time / 3600, minute := time / 60 % 60, second := time % 60
    weekday := ((days + 4) % 7).toNat
    yearday := (days - daysOf year 1 1).toNat }

/-- The moment of a date and a time of the day, which may be out of their ranges. -/
def seconds (year month day hour minute second : Int) : Int :=
  let months := year * 12 + month - 1
  (daysOf (months / 12) ((months % 12).toNat + 1) 1 + day - 1) * 86400
    + hour * 3600 + minute * 60 + second

/-- The names of the days of a week. -/
def dayNames : List String :=
  ["Sunday", "Monday", "Tuesday", "Wednesday", "Thursday", "Friday", "Saturday"]

/-- The names of the months. -/
def monthNames : List String :=
  ["January", "February", "March", "April", "May", "June", "July", "August", "September",
   "October", "November", "December"]

/-- The year that the week of a date belongs to, and the number of the week in it, where weeks begin
on Monday and the first one has the first Thursday. -/
def week (d : Date) : Int × Nat :=
  let days := daysOf d.year d.month d.day
  let thursday := days - ((d.weekday + 6) % 7 : Nat) + 3
  let year := (ofSeconds (thursday * 86400)).year
  (year, ((thursday - daysOf year 1 1) / 7).toNat + 1)

/-- A number with at least so many digits. -/
def digits (width : Nat) (n : Int) : String :=
  (if n < 0 then "-" else "") ++ Raw.padLeft width '0' (toString n.natAbs)

/-- The part of a date that a letter stands for, without those that stand for several parts. -/
def part? (d : Date) (total : Int) (letter : Char) : Option String :=
  let two (n : Nat) := digits 2 n
  let blank (n : Nat) := Raw.padLeft 2 ' ' (toString n)
  let hour12 := if d.hour % 12 == 0 then 12 else d.hour % 12
  let dayName := dayNames.getD d.weekday ""
  let monthName := monthNames.getD (d.month - 1) ""
  match letter with
  | 'Y' => some (toString d.year)
  | 'C' => some (digits 2 (d.year / 100))
  | 'y' => some (digits 2 (d.year % 100))
  | 'm' => some (two d.month)
  | 'd' => some (two d.day)
  | 'e' => some (blank d.day)
  | 'H' => some (two d.hour)
  | 'I' => some (two hour12)
  | 'k' => some (blank d.hour)
  | 'l' => some (blank hour12)
  | 'M' => some (two d.minute)
  | 'S' => some (two d.second)
  | 'j' => some (digits 3 (d.yearday + 1))
  | 'a' => some (dayName.take 3).toString
  | 'A' => some dayName
  | 'b' | 'h' => some (monthName.take 3).toString
  | 'B' => some monthName
  | 'p' => some (if d.hour < 12 then "AM" else "PM")
  | 'P' => some (if d.hour < 12 then "am" else "pm")
  | 's' => some (toString total)
  | 'u' => some (toString (if d.weekday == 0 then 7 else d.weekday))
  | 'w' => some (toString d.weekday)
  | 'G' => some (toString d.week.1)
  | 'g' => some (digits 2 (d.week.1 % 100))
  | 'V' => some (two d.week.2)
  | 'U' => some (two ((d.yearday + 7 - d.weekday) / 7))
  | 'W' => some (two ((d.yearday + 7 - (d.weekday + 6) % 7) / 7))
  | 'q' => some (toString ((d.month - 1) / 3 + 1))
  | 'z' => some "+0000"
  | 'Z' => some "UTC"
  | 'n' => some "\n"
  | 't' => some "\t"
  | '%' => some "%"
  | _ => none

/-- The formats that letters stand for. -/
def formats : List (Char × String) :=
  [('D', "%m/%d/%y"), ('F', "%Y-%m-%d"), ('T', "%H:%M:%S"), ('R', "%H:%M"),
   ('r', "%I:%M:%S %p"), ('c', "%a %b %e %H:%M:%S %Y"), ('x', "%m/%d/%y"), ('X', "%H:%M:%S")]

/-- The part of a date that a letter stands for. -/
def piece? (d : Date) (total : Int) (letter : Char) : Option String :=
  match formats.lookup letter with
  | none => d.part? total letter
  | some format =>
    let rec go : List Char → String
      | '%' :: c :: cs => (d.part? total c).getD "" ++ go cs
      | c :: cs => String.singleton c ++ go cs
      | [] => ""
    some (go format.toList)

/-- A piece with the flag and the width that stand in front of its letter. -/
def flagged (flag : Option Char) (width : Nat) (letter : Char) (s : String) : String :=
  let isNumber := s.all Char.isDigit
  let bare := String.ofList (s.toList.dropWhile fun c => c == '0' || c == ' ')
  let bare := if bare.isEmpty && isNumber then "0" else bare
  let natural := s.length
  match flag with
  | some '-' => if isNumber || s.startsWith " " then bare else s
  | some '_' =>
    if isNumber || s.startsWith " " then Raw.padLeft (max width natural) ' ' bare
    else Raw.padLeft width ' ' s
  | some '0' => Raw.padLeft (max width natural) '0' (if s.startsWith " " then bare else s)
  | some '^' => Raw.padLeft width ' ' (s.map Char.toUpper)
  | some '#' =>
    Raw.padLeft width ' ' (if letter == 'p' then s.map Char.toLower else s.map Char.toUpper)
  | _ => Raw.padLeft width (if isNumber then '0' else ' ') s

/-- A date by a format.  The first argument bounds the number of steps. -/
def formatFrom (d : Date) (total : Int) : Nat → List Char → String
  | 0, _ => ""
  | n + 1, cs =>
    match cs with
    | [] => ""
    | '%' :: rest =>
      let flags := rest.takeWhile "-_0^#".toList.contains
      let afterFlags := rest.drop flags.length
      let ds := afterFlags.takeWhile Char.isDigit
      let tail := afterFlags.drop ds.length
      let tail := match tail with
        | ':' :: 'z' :: more => 'z' :: more
        | 'E' :: more | 'O' :: more => more
        | more => more
      match tail with
      | [] => String.ofList cs
      | letter :: more =>
        let shown := match letter with
          | 'N' => some "000000000"
          | letter => d.piece? total letter
        match shown with
        | some s =>
          flagged flags.getLast? ((Raw.digits? 10 ds).getD 0) letter s ++ formatFrom d total n more
        | none =>
          String.ofList (cs.take (cs.length - more.length)) ++ formatFrom d total n more
    | c :: rest => String.singleton c ++ formatFrom d total n rest

/-- A moment by a format. -/
def format (total : Int) (format : String) : String :=
  (ofSeconds total).formatFrom total (format.length + 1) format.toList

end Date

end MonitorKeys.Shell

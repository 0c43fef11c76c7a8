import Rpn.Text.ByteSet

/-! Dates and times of day, counted from the beginning of 1970.  Only serves the test environment.
-/

namespace Rpn.Text

structure Moment where
  year : Int
  month : Nat
  day : Nat
  hour : Nat := 0
  minute : Nat := 0
  second : Nat := 0
  nanosecond : Nat := 0
  deriving DecidableEq, Repr

namespace Moment

def nanosPerSecond : Nat := 1000000000

def dayNumber (year : Int) (month day : Nat) : Int :=
  let year := if month ≤ 2 then year - 1 else year
  let era := Int.fdiv year 400
  let yearOfEra := year - era * 400
  let monthFromMarch : Int := if 2 < month then month - 3 else month + 9
  let dayOfYear := (153 * monthFromMarch + 2) / 5 + day - 1
  let dayOfEra := yearOfEra * 365 + yearOfEra / 4 - yearOfEra / 100 + dayOfYear
  era * 146097 + dayOfEra - 719468

def ofDayNumber (number : Int) : Int × Nat × Nat :=
  let shifted := number + 719468
  let era := Int.fdiv shifted 146097
  let dayOfEra := shifted - era * 146097
  let yearOfEra := (dayOfEra - dayOfEra / 1460 + dayOfEra / 36524 - dayOfEra / 146096) / 365
  let dayOfYear := dayOfEra - (365 * yearOfEra + yearOfEra / 4 - yearOfEra / 100)
  let monthFromMarch := (5 * dayOfYear + 2) / 153
  let day := dayOfYear - (153 * monthFromMarch + 2) / 5 + 1
  let month := if monthFromMarch < 10 then monthFromMarch + 3 else monthFromMarch - 9
  let year := yearOfEra + era * 400
  (if month ≤ 2 then year + 1 else year, month.toNat, day.toNat)

def secondsPerDay : Int := 86400

def seconds (moment : Moment) : Int :=
  dayNumber moment.year moment.month moment.day * secondsPerDay +
    (moment.hour * 3600 + moment.minute * 60 + moment.second : Nat)

def ofNanoseconds (count : Int) : Moment :=
  let total := Int.fdiv count nanosPerSecond
  let days := Int.fdiv total secondsPerDay
  let rest := (total - days * secondsPerDay).toNat
  let (year, month, day) := ofDayNumber days
  { year, month, day, hour := rest / 3600, minute := rest / 60 % 60, second := rest % 60
    nanosecond := (count - total * nanosPerSecond).toNat }

def weekday (moment : Moment) : Nat :=
  (Int.fmod (dayNumber moment.year moment.month moment.day + 4) 7).toNat

def yearDay (moment : Moment) : Nat :=
  (dayNumber moment.year moment.month moment.day - dayNumber moment.year 1 1).toNat

def isLeap (year : Int) : Bool :=
  year % 4 == 0 && (year % 100 != 0 || year % 400 == 0)

def monthLength (year : Int) (month : Nat) : Nat :=
  match month with
  | 2 => if isLeap year then 29 else 28
  | 4 | 6 | 9 | 11 => 30
  | _ => 31

/-- The year and the number of the week by weeks that begin on Monday and belong to the year of
their Thursday. -/
def isoWeek (moment : Moment) : Int × Nat :=
  let fromMonday := (moment.weekday + 6) % 7
  let thursday := dayNumber moment.year moment.month moment.day - fromMonday + 3
  let (year, _, _) := ofDayNumber thursday
  (year, ((thursday - dayNumber year 1 1) / 7).toNat + 1)

end Moment

namespace Calendar

def dayNames : List String :=
  ["Sunday", "Monday", "Tuesday", "Wednesday", "Thursday", "Friday", "Saturday"]

def monthNames : List String :=
  ["January", "February", "March", "April", "May", "June", "July", "August", "September",
    "October", "November", "December"]

/-- How a part of a moment is written: its flags and its width. -/
structure Manner where
  pad : Option UInt8 := none
  filled : Bool := true
  upper : Bool := false
  swapped : Bool := false
  width : Nat := 0
  colons : Nat := 0

def readManner (manner : Manner) : Bytes → Manner × Bytes
  | [] => (manner, [])
  | byte :: rest =>
      match Char.ofNat byte.toNat with
      | '-' => readManner { manner with filled := false } rest
      | '_' => readManner { manner with pad := some Ascii.space } rest
      | '0' => readManner { manner with pad := some Ascii.zero } rest
      | '+' => readManner { manner with pad := some Ascii.zero } rest
      | '^' => readManner { manner with upper := true } rest
      | '#' => readManner { manner with swapped := true } rest
      | _ => (manner, byte :: rest)

def number (manner : Manner) (width : Nat) (usual : UInt8) (value : Int) : Bytes :=
  let digits := Bytes.ofNat value.natAbs
  let sign := if value < 0 then [Ascii.minus] else []
  if !manner.filled ∧ manner.width = 0 then sign ++ digits
  else
    let width := if manner.width = 0 then width else manner.width
    let gap := List.replicate (width - digits.length - sign.length) (manner.pad.getD usual)
    if manner.pad.getD usual = Ascii.space then gap ++ sign ++ digits else sign ++ gap ++ digits

def word (manner : Manner) (text : Bytes) (swap : Bool := false) : Bytes :=
  let text :=
    if swap ∧ manner.swapped then text.map toLower
    else if manner.upper ∨ manner.swapped then text.map toUpper
    else text
  List.replicate (manner.width - text.length) (manner.pad.getD Ascii.space) ++ text

def twelve (hour : Nat) : Nat :=
  if hour % 12 = 0 then 12 else hour % 12

def composed? (letter : Char) : Option String :=
  match letter with
  | 'c' => some "%a %b %e %H:%M:%S %Y"
  | 'D' | 'x' => some "%m/%d/%y"
  | 'F' => some "%Y-%m-%d"
  | 'r' => some "%I:%M:%S %p"
  | 'R' => some "%H:%M"
  | 'T' | 'X' => some "%H:%M:%S"
  | _ => none

def directive? (moment : Moment) (manner : Manner) (letter : Char) : Option Bytes :=
  let zero := Ascii.zero
  let space := Ascii.space
  let part := fun (width : Nat) (value : Nat) => some (number manner width zero value)
  let fromList := fun (names : List String) (index : Nat) => ascii (names.getD index "?")
  match letter with
  | 'a' => some (word manner ((fromList dayNames moment.weekday).take 3))
  | 'A' => some (word manner (fromList dayNames moment.weekday))
  | 'b' | 'h' => some (word manner ((fromList monthNames (moment.month - 1)).take 3))
  | 'B' => some (word manner (fromList monthNames (moment.month - 1)))
  | 'C' => some (number manner 2 zero (Int.fdiv moment.year 100))
  | 'd' => part 2 moment.day
  | 'e' => some (number manner 2 space moment.day)
  | 'g' => some (number manner 2 zero (moment.isoWeek.1 % 100))
  | 'G' => some (number manner 4 zero moment.isoWeek.1)
  | 'H' => part 2 moment.hour
  | 'I' => part 2 (twelve moment.hour)
  | 'j' => part 3 (moment.yearDay + 1)
  | 'k' => some (number manner 2 space moment.hour)
  | 'l' => some (number manner 2 space (twelve moment.hour))
  | 'm' => part 2 moment.month
  | 'M' => part 2 moment.minute
  | 'n' => some [Ascii.newline]
  | 't' => some [Ascii.tab]
  | 'N' =>
      let digits := number {} 9 zero moment.nanosecond
      some (if manner.width = 0 then digits else digits.take manner.width)
  | 'p' => some (word manner (ascii (if moment.hour < 12 then "AM" else "PM")) true)
  | 'P' => some (word manner (ascii (if moment.hour < 12 then "am" else "pm")))
  | 'q' => some (number manner 1 zero ((moment.month + 2) / 3 : Nat))
  | 's' => some (number manner 1 zero moment.seconds)
  | 'S' => part 2 moment.second
  | 'u' => some (number manner 1 zero ((moment.weekday + 6) % 7 + 1 : Nat))
  | 'U' => part 2 ((moment.yearDay + 7 - moment.weekday) / 7)
  | 'V' => part 2 moment.isoWeek.2
  | 'w' => some (number manner 1 zero moment.weekday)
  | 'W' => part 2 ((moment.yearDay + 7 - (moment.weekday + 6) % 7) / 7)
  | 'y' => some (number manner 2 zero (moment.year % 100))
  | 'Y' => some (number manner 4 zero moment.year)
  | 'z' => some (match manner.colons with
      | 0 => ascii "+0000"
      | 1 => ascii "+00:00"
      | 2 => ascii "+00:00:00"
      | _ => ascii "+00")
  | 'Z' => some (word manner (ascii "UTC") true)
  | '%' => some [Ascii.percent]
  | _ => none

def formatFrom (moment : Moment) : Nat → Nat → Bytes → Bytes
  | 0, _, _ => []
  | _, 0, _ => []
  | _, _, [] => []
  | depth + 1, bound + 1, byte :: rest =>
      if byte ≠ Ascii.percent then byte :: formatFrom moment (depth + 1) bound rest
      else
        let (manner, after) := readManner {} rest
        let digits := after.takeWhile isDigit
        let manner := { manner with width := Bytes.valueOf digits }
        let after := after.drop digits.length
        let colons := (after.takeWhile (· == Ascii.colon)).length
        let manner := { manner with colons }
        match after.drop colons with
        | [] => byte :: rest
        | letter :: after =>
            match composed? (Char.ofNat letter.toNat) with
            | some format =>
                let inner := formatFrom moment depth format.length (ascii format)
                word manner inner ++ formatFrom moment (depth + 1) bound after
            | none =>
                match directive? moment manner (Char.ofNat letter.toNat) with
                | some text => text ++ formatFrom moment (depth + 1) bound after
                | none =>
                    let raw := byte :: rest.take (rest.length - after.length)
                    raw ++ formatFrom moment (depth + 1) bound after

def format (moment : Moment) (format : Bytes) : Bytes :=
  formatFrom moment 2 (format.length + 1) format

end Calendar

end Rpn.Text

import Rpn.Text.Calendar

/-! Reading dates and times as people write them.  Only serves the test environment. -/

namespace Rpn.Text.Calendar

inductive Piece where
  | number (digits : Bytes)
  | word (letters : Bytes)
  | mark (byte : UInt8)
  deriving DecidableEq, Repr

/-- Divide a text into pieces.  Blanks are pieces too, as they end a date. -/
def pieces : Nat → Bytes → List Piece
  | 0, _ => []
  | _, [] => []
  | bound + 1, byte :: rest =>
      if isDigit byte then
        let digits := (byte :: rest).takeWhile isDigit
        .number digits :: pieces bound ((byte :: rest).drop digits.length)
      else if isLetter byte then
        let letters := (byte :: rest).takeWhile isLetter
        .word (letters.map toLower) :: pieces bound ((byte :: rest).drop letters.length)
      else if isBlank byte then
        .mark Ascii.space :: pieces bound (rest.dropWhile isBlank)
      else .mark byte :: pieces bound rest

/-- What is known of a date: the parts that are given, and how far it is moved. -/
structure Draft where
  date : Option (Int × Nat × Nat) := none
  time : Option (Nat × Nat × Nat × Nat) := none
  zone : Option Int := none
  weekday : Option Nat := none
  months : Int := 0
  days : Int := 0
  seconds : Int := 0

def nameIndex? (names : List String) (word : Bytes) : Option Nat :=
  if word.length < 3 then none
  else names.findIdx? fun name => word.isPrefixOf ((ascii name).map toLower)

def unit? (word : Bytes) : Option (Int × Int × Int) :=
  let word := if word.getLast? = some 115 ∧ word.length > 1 then word.dropLast else word
  (([("year", (12, 0, 0)), ("month", (1, 0, 0)), ("fortnight", (0, 14, 0)), ("week", (0, 7, 0)),
    ("day", (0, 1, 0)), ("hour", (0, 0, 3600)), ("minute", (0, 0, 60)), ("min", (0, 0, 60)),
    ("second", (0, 0, 1)), ("sec", (0, 0, 1))] : List (String × Int × Int × Int)).find?
      fun entry => ascii entry.1 == word).map (·.2)

def move (draft : Draft) (count : Int) (unit : Int × Int × Int) : Draft :=
  { draft with
    months := draft.months + count * unit.1
    days := draft.days + count * unit.2.1
    seconds := draft.seconds + count * unit.2.2 }

def fraction (digits : Bytes) : Nat :=
  Bytes.valueOf ((digits ++ List.replicate 9 Ascii.zero).take 9)

def fullYear (digits : Bytes) : Int :=
  let value := Bytes.valueOf digits
  if 2 < digits.length then value
  else if value < 69 then 2000 + value
  else 1900 + value

def skipBlanks : List Piece → List Piece
  | .mark Ascii.space :: rest => skipBlanks rest
  | pieces => pieces

def halfDay? (hour : Nat) (word : Bytes) : Option Nat :=
  if hour < 1 ∨ 12 < hour then none
  else if word = ascii "am" then some (hour % 12)
  else if word = ascii "pm" then some (hour % 12 + 12)
  else none

def afterTime (draft : Draft) (hour minute second nano : Nat) (rest : List Piece) :
    Option (Draft × List Piece) :=
  match skipBlanks rest with
  | .word letters :: after =>
      if letters = ascii "am" ∨ letters = ascii "pm" then do
        let hour ← halfDay? hour letters
        return ({ draft with time := some (hour, minute, second, nano) }, after)
      else some ({ draft with time := some (hour, minute, second, nano) }, rest)
  | _ => some ({ draft with time := some (hour, minute, second, nano) }, rest)

def signed (mark : UInt8) (value : Int) : Int :=
  if mark = Ascii.minus then -value else value

def zoneOf (digits : Bytes) : Int :=
  let value := Bytes.valueOf digits
  if digits.length ≤ 2 then value * 3600 else (value / 100) * 3600 + (value % 100) * 60

def item (draft : Draft) (input : List Piece) : Option (Draft × List Piece) :=
  match input with
  | [] => none
  | .mark Ascii.space :: rest => some (draft, rest)
  | .mark Ascii.comma :: rest => some (draft, rest)
  | .number year :: .mark Ascii.minus :: .number month :: .mark Ascii.minus :: .number day ::
      rest =>
      if draft.date.isSome then none
      else
        let draft := { draft with
          date := some (fullYear year, Bytes.valueOf month, Bytes.valueOf day) }
        match rest with
        | .word [116] :: after => some (draft, after)
        | rest => some (draft, rest)
  | .number month :: .mark Ascii.slash :: .number day :: .mark Ascii.slash :: .number year ::
      rest =>
      if draft.date.isSome then none
      else if 4 ≤ month.length then
        some ({ draft with
          date := some (Bytes.valueOf month, Bytes.valueOf day, Bytes.valueOf year) }, rest)
      else
        some ({ draft with
          date := some (fullYear year, Bytes.valueOf month, Bytes.valueOf day) }, rest)
  | .number hour :: .mark Ascii.colon :: .number minute :: .mark Ascii.colon :: .number second ::
      .mark Ascii.dot :: .number digits :: rest =>
      afterTime draft (Bytes.valueOf hour) (Bytes.valueOf minute) (Bytes.valueOf second)
        (fraction digits) rest
  | .number hour :: .mark Ascii.colon :: .number minute :: .mark Ascii.colon :: .number second ::
      rest =>
      afterTime draft (Bytes.valueOf hour) (Bytes.valueOf minute) (Bytes.valueOf second) 0 rest
  | .number hour :: .mark Ascii.colon :: .number minute :: rest =>
      afterTime draft (Bytes.valueOf hour) (Bytes.valueOf minute) 0 0 rest
  | .mark sign :: .number digits :: rest =>
      if sign ≠ Ascii.plus ∧ sign ≠ Ascii.minus then none
      else
        match skipBlanks rest with
        | .word letters :: after =>
            match unit? letters with
            | some unit => relative (signed sign (Bytes.valueOf digits)) unit after
            | none =>
                if draft.time.isSome then
                  some ({ draft with zone := some (signed sign (zoneOf digits)) }, rest)
                else none
        | _ =>
            if draft.time.isSome then
              match rest with
              | .mark Ascii.colon :: .number minutes :: after =>
                  let zone := (Bytes.valueOf digits * 3600 + Bytes.valueOf minutes * 60 : Nat)
                  some ({ draft with zone := some (signed sign zone) }, after)
              | rest => some ({ draft with zone := some (signed sign (zoneOf digits)) }, rest)
            else none
  | .number digits :: rest =>
      match skipBlanks rest with
      | .word letters :: after =>
          match nameIndex? monthNames letters, unit? letters with
          | some month, _ => do
              if draft.date.isSome then none
              let year? := match skipBlanks after with
                | .number year :: left =>
                    if left.head? = some (.mark Ascii.colon) then none else some (year, left)
                | .mark Ascii.comma :: left =>
                    match skipBlanks left with
                    | .number year :: left => some (year, left)
                    | _ => none
                | _ => none
              match year? with
              | some (year, left) =>
                  some ({ draft with
                    date := some (fullYear year, month + 1, Bytes.valueOf digits) }, left)
              | none => none
          | none, some unit => relative (Bytes.valueOf digits) unit after
          | none, none =>
              if letters = ascii "am" ∨ letters = ascii "pm" then do
                let hour ← halfDay? (Bytes.valueOf digits) letters
                return ({ draft with time := some (hour, 0, 0, 0) }, after)
              else bare digits rest
      | _ => bare digits rest
  | .word letters :: rest =>
      let same := fun (text : String) => letters == ascii text
      if same "now" || same "today" then some (draft, rest)
      else if same "yesterday" then some ({ draft with days := draft.days - 1 }, rest)
      else if same "tomorrow" then some ({ draft with days := draft.days + 1 }, rest)
      else if same "z" || same "utc" || same "gmt" then some ({ draft with zone := some 0 }, rest)
      else if same "midnight" then some ({ draft with time := some (0, 0, 0, 0) }, rest)
      else if same "noon" then some ({ draft with time := some (12, 0, 0, 0) }, rest)
      else if same "next" || same "last" || same "this" then
        match skipBlanks rest with
        | .word name :: after => do
            let unit ← unit? name
            relative (if same "next" then 1 else if same "last" then -1 else 0) unit after
        | _ => none
      else
        match nameIndex? monthNames letters, nameIndex? dayNames letters, unit? letters with
        | some month, _, _ =>
            match skipBlanks rest with
            | .number day :: after =>
                if draft.date.isSome then none
                else
                  let after := match skipBlanks after with
                    | .mark Ascii.comma :: left => skipBlanks left
                    | left => left
                  match after with
                  | .number year :: left =>
                      some ({ draft with
                        date := some (fullYear year, month + 1, Bytes.valueOf day) }, left)
                  | _ => none
            | _ => none
        | none, some day, _ => some ({ draft with weekday := some day }, rest)
        | none, none, some unit => relative 1 unit rest
        | none, none, none => none
  | _ => none
where
  /-- A move by some units, which goes back if `ago` follows. -/
  relative (count : Int) (unit : Int × Int × Int) (rest : List Piece) :
      Option (Draft × List Piece) :=
    match skipBlanks rest with
    | .word letters :: after =>
        if letters = ascii "ago" then some (move draft (-count) unit, after)
        else some (move draft count unit, rest)
    | _ => some (move draft count unit, rest)
  bare (digits : Bytes) (rest : List Piece) : Option (Draft × List Piece) :=
    let value := Bytes.valueOf digits
    if draft.date.isNone ∧ 4 < digits.length then
      some ({ draft with
        date := some (fullYear (digits.take (digits.length - 4)), value / 100 % 100, value % 100) },
        rest)
    else if draft.time.isNone then
      if digits.length ≤ 2 then some ({ draft with time := some (value, 0, 0, 0) }, rest)
      else some ({ draft with time := some (value / 100, value % 100, 0, 0) }, rest)
    else none

def items (draft : Draft) : Nat → List Piece → Option Draft
  | 0, _ => none
  | _, [] => some draft
  | bound + 1, input => do
      let (draft, rest) ← item draft input
      items draft bound rest

def complete? (now : Int) (draft : Draft) : Option Int := do
  let current := Moment.ofNanoseconds now
  let (year, month, day) := draft.date.getD (current.year, current.month, current.day)
  let given := draft.date.isSome || draft.time.isSome || draft.weekday.isSome
  let (hour, minute, second, nano) := draft.time.getD
    (if given then (0, 0, 0, 0)
    else (current.hour, current.minute, current.second, current.nanosecond))
  if month < 1 ∨ 12 < month ∨ day < 1 ∨ Moment.monthLength year month < day then none
  else if 23 < hour ∨ 59 < minute ∨ 60 < second then none
  else
    let count : Int := year * 12 + (month - 1 : Nat) + draft.months
    let base := Moment.dayNumber (Int.fdiv count 12) ((Int.fmod count 12).toNat + 1) day
    let base := match draft.weekday with
      | some weekday =>
          if draft.date.isSome then base else base + Int.fmod (weekday - (base + 4)) 7
      | none => base
    let total := (base + draft.days) * Moment.secondsPerDay +
      (hour * 3600 + minute * 60 + second : Nat) + draft.seconds - draft.zone.getD 0
    some (total * Moment.nanosPerSecond + nano)

def read? (now : Int) (text : Bytes) : Option Int :=
  match text.dropWhile isBlank with
  | Ascii.atSign :: rest =>
      let (negative, rest) := match rest with
        | Ascii.minus :: rest => (true, rest)
        | rest => (false, rest)
      let digits := rest.takeWhile isDigit
      let after := rest.drop digits.length
      let value : Option Nat := match after with
        | [] => if digits = [] then none else some (Bytes.valueOf digits * Moment.nanosPerSecond)
        | Ascii.dot :: places =>
            if places.all isDigit ∧ digits ≠ [] then
              some (Bytes.valueOf digits * Moment.nanosPerSecond + fraction places)
            else none
        | _ => none
      value.map fun value => if negative then -(value : Int) else value
  | text => do
      let found := pieces (text.length + 1) text
      let draft ← items {} (found.length + 1) found
      complete? now draft

end Rpn.Text.Calendar

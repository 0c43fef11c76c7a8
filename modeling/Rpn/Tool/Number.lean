import Rpn.Text.Factors
import Rpn.Text.Numeral
import Rpn.Tool.Lines

/-! Tools about numbers: their prime factors, and their forms with letters for large units.  Only
serves the test environment. -/

namespace Rpn.Tool

open Host Text

/-! Prime factors. -/

def blankWords (text : Bytes) : List Bytes :=
  ((text.map fun byte => if isSpace byte then Ascii.space else byte).splitOn Ascii.space).filter
    (· ≠ [])

def sayFactors (text : Bytes) : Run Unit := do
  let digits := match text.dropWhile isSpace with
    | Ascii.plus :: rest => rest
    | rest => rest
  match Bytes.toNat? digits with
  | some number =>
      Run.sayLine (.ofNat number ++ [Ascii.colon] ++
        (Factors.of number).flatMap fun factor => Ascii.space :: Bytes.ofNat factor)
  | none =>
      Run.worry (Quoting.plain text ++ ascii " is not a valid positive integer")

def factor : Main := fun arguments => do
  let parsed ← Run.options [] arguments
  let words ← match parsed.operands with
    | [] =>
        match ← Act.readAll 0 with
        | .ok text => pure (blankWords text)
        | .error fault => Run.fail (ascii "error reading input: " ++ fault.message)
    | words => pure words
  for word in words do sayFactors word
  Run.status

/-! Numbers with units. -/

namespace Measure

/-- How a number is scaled: not at all, by thousands, by 1024, by 1024 with an `i` after the letter,
or as the letter tells. -/
inductive Scale where
  | none
  | si
  | iec
  | iecI
  | auto
  deriving DecidableEq

def Scale.base : Scale → Nat
  | .iec | .iecI => 1024
  | _ => 1000

structure Ratio where
  top : Int
  bottom : Nat := 1

namespace Ratio

def times (value : Ratio) (factor : Nat) : Ratio :=
  { value with top := value.top * factor }

def dividedBy (value : Ratio) (divisor : Nat) : Ratio :=
  { value with bottom := value.bottom * divisor }

def reaches (value : Ratio) (limit : Nat) : Bool :=
  limit * value.bottom ≤ value.top.natAbs

def rounded (value : Ratio) : Int :=
  let size := (value.top.natAbs + value.bottom - 1) / value.bottom
  if value.top < 0 then -(size : Int) else size

/-- Divide by a base until the number is below it, and count how often. -/
def scaled (base : Nat) : Nat → Ratio → Ratio × Nat
  | 0, value => (value, 0)
  | bound + 1, value =>
      if value.reaches base then
        let (value, power) := scaled base bound (value.dividedBy base)
        (value, power + 1)
      else (value, 0)

end Ratio

def letters : Bytes :=
  ascii "KMGTPEZY"

inductive Fault where
  | tooLarge
  | noNumber
  | refusedSuffix
  | unknownSuffix
  | missingI
  | trailing (rest : Bytes)

def Fault.message (text : Bytes) : Fault → Bytes
  | .tooLarge => ascii "value too large to be converted: " ++ Quoting.plain text
  | .noNumber => ascii "invalid number: " ++ Quoting.plain text
  | .refusedSuffix =>
      ascii "rejecting suffix in input: " ++ Quoting.plain text ++
        ascii " (consider using --from)"
  | .unknownSuffix => ascii "invalid suffix in input: " ++ Quoting.plain text
  | .missingI =>
      ascii "missing 'i' suffix in input: " ++ Quoting.plain text ++ ascii " (e.g Ki/Mi/Gi)"
  | .trailing rest =>
      ascii "invalid suffix in input " ++ Quoting.plain text ++ ascii ": " ++ Quoting.plain rest

def read (scale : Scale) (text : Bytes) : Except Fault (Ratio × Nat) := do
  let (negative, input) := match text with
    | Ascii.minus :: rest => (true, rest)
    | rest => (false, rest)
  let whole := input.takeWhile isDigit
  let input := input.drop whole.length
  if whole = [] ∧ input.head? ≠ some Ascii.dot then throw .noNumber
  if 27 < (whole.dropWhile (· == Ascii.zero)).length then throw .tooLarge
  let (places, input) ← match input with
    | Ascii.dot :: rest =>
        let places := rest.takeWhile isDigit
        if places = [] then throw .noNumber
        pure (places, rest.drop places.length)
    | rest => pure ([], rest)
  let size : Nat := Bytes.valueOf (whole ++ places)
  let value : Ratio :=
    { top := if negative then -(size : Int) else size, bottom := Nat.pow 10 places.length }
  let after := input.dropWhile fun byte => byte == Ascii.space || byte == Ascii.tab
  match input with
  | [] => if scale = .iecI then throw .missingI else return (value, places.length)
  | _ =>
      match after.head?.bind letters.idxOf? with
      | none => throw .unknownSuffix
      | some index =>
          if scale = .none then throw .refusedSuffix
          let rest := after.tail
          let (base, rest) := if scale = .auto ∧ rest.head? = some 105 then (1024, rest.tail)
            else (scale.base, rest)
          let rest ← if scale ≠ .iecI then pure rest
            else if rest.head? = some 105 then pure rest.tail else throw .missingI
          if rest ≠ [] then throw (.trailing rest)
          return (value.times (Nat.pow base (index + 1)), 0)

def decimalText (places : Nat) (value : Int) : Bytes :=
  let digits := Bytes.ofNat value.natAbs
  let digits := List.replicate (places + 1 - digits.length) Ascii.zero ++ digits
  let whole := digits.take (digits.length - places)
  let sign := if value < 0 then [Ascii.minus] else []
  sign ++ whole ++ (if places = 0 then [] else Ascii.dot :: digits.drop (digits.length - places))

structure Manner where
  fromScale : Scale := .none
  toScale : Scale := .none

def Manner.show (manner : Manner) (value : Ratio) (given : Nat) : Bytes :=
  match manner.toScale with
  | .none => decimalText given (value.times (Nat.pow 10 given)).rounded
  | scale =>
      let (value, power) := value.scaled scale.base 64
      let kept := if value.reaches 10 then 0 else 1
      let rounded : Ratio :=
        { top := (value.times (Nat.pow 10 kept)).rounded, bottom := Nat.pow 10 kept }
      let (value, power) :=
        if rounded.reaches scale.base then (rounded.dividedBy scale.base, power + 1)
        else (rounded, power)
      let places := if value.top ≠ 0 ∧ !value.reaches 10 ∧ 0 < power then 1 else 0
      let letter := if power = 0 then []
        else letters.getD (power - 1) 0 :: (if scale = .iecI then ascii "i" else [])
      decimalText places (halfEven (value.times (Nat.pow 10 places))) ++ letter
where
  halfEven (value : Ratio) : Int :=
    let size := value.top.natAbs
    let low := size / value.bottom
    let twice := 2 * (size % value.bottom)
    let chosen := if value.bottom < twice ∨ (twice = value.bottom ∧ low % 2 = 1) then low + 1
      else low
    if value.top < 0 then -(chosen : Int) else chosen

/-- A field as it is shown, or why it has no number.  It keeps its width if blanks stand before
it. -/
def Manner.convert (manner : Manner) (text : Bytes) : Except Bytes Bytes := do
  let body := text.dropWhile fun byte => byte == Ascii.space || byte == Ascii.tab
  let width := if body.length < text.length then text.length else 0
  match read manner.fromScale body with
  | .error fault => throw (fault.message body)
  | .ok (value, given) =>
      let shown := manner.show value given
      return List.replicate (width - shown.length) Ascii.space ++ shown

/-- Convert the first field of a line.  The first blank after a word becomes a space. -/
def sayConverted (manner : Manner) (line : Bytes) (ended : Bool) : Run Unit := do
  let isGap := fun byte => byte == Ascii.space || byte == Ascii.tab || byte == Ascii.newline
  let gap := line.takeWhile isGap
  let field := gap ++ (line.drop gap.length).takeWhile (!isGap ·)
  let rest := (line.drop (field.length - 1)).zipWith (fun before byte =>
    if isGap byte && !isGap before then Ascii.space else byte) (line.drop field.length)
  match manner.convert field with
  | .ok text => Run.say (text ++ rest)
  | .error message => Run.fail message 2
  if ended then Run.say [Ascii.newline]

/-! Options. -/

def scaleOf (option : String) (text : Bytes) (isSource : Bool) : Run Scale := do
  let names := [["none"], ["si"], ["iec"], ["iec-i"]]
  let names := if isSource then ["auto"] :: names else names
  match ← Run.choose option (["none"] :: names.filter (· ≠ ["none"])) text with
  | "si" => return .si
  | "iec" => return .iec
  | "iec-i" => return .iecI
  | "auto" => return .auto
  | _ => return .none

def mannerOf (parsed : Parsed) : Run Manner := do
  let scale := fun (name : String) (isSource : Bool) => do
    match parsed.value? name with
    | some text => scaleOf ("--" ++ name) text isSource
    | none => pure Scale.none
  return { fromScale := ← scale "from" true, toScale := ← scale "to" false }

end Measure

def numfmt : Main := fun arguments => do
  let parsed ← Run.options [valued ["from"], valued ["to"]] arguments
  let manner ← Measure.mannerOf parsed
  match parsed.operands with
  | [] =>
      let text ← match ← Act.readAll 0 with
        | .ok text => pure text
        | .error fault => Run.fail (ascii "error reading input: " ++ fault.message)
      let parts := text.splitOn Ascii.newline
      let last := parts.length - 1
      for (line, index) in parts.zipIdx do
        if index < last ∨ line ≠ [] then Measure.sayConverted manner line (index < last)
  | words => for word in words do Measure.sayConverted manner word true
  Run.status

end Rpn.Tool

import Rpn.Text.Directive
import Rpn.Tool.Awk.Table

/-! Values of the language: numbers, texts, and texts from the input that look like numbers.  Only
serves the test environment. -/

namespace Rpn.Tool.Awk

open Text

/-- An `input` value is a text that was read and that looks like a number. -/
inductive Value where
  | unset
  | float (value : Float)
  | text (value : Bytes)
  | input (value : Bytes) (number : Float)

instance : Inhabited Value := ⟨.unset⟩

namespace Value

/-! Numbers. -/

def readNumber (text : Bytes) : Float :=
  match Binary.readPrefix? Binary.double text with
  | some (number, _) => number.toFloat
  | none => 0

def wholeNumber? (text : Bytes) : Option Float := do
  let (number, rest) ← Binary.readPrefix? Binary.double text
  if rest.all isSpace then some number.toFloat else none

def ofInput (text : Bytes) : Value :=
  match wholeNumber? text with
  | some number => .input text number
  | none => .text text

def ofNat (number : Nat) : Value :=
  .float (Float.ofNat number)

def ofBool (condition : Bool) : Value :=
  .float (if condition then 1 else 0)

def toNumber : Value → Float
  | .unset => 0
  | .float value => value
  | .text value => readNumber value
  | .input _ number => number

def truncate? (number : Float) : Option Int :=
  match Binary.ofFloat number with
  | .finite negative mantissa exponent =>
      let size : Nat :=
        if 0 ≤ exponent then mantissa * Nat.pow 2 exponent.toNat
        else mantissa / Nat.pow 2 (-exponent).toNat
      some (if negative then -size else size)
  | _ => none

def whole? (number : Float) : Option Int := do
  let value ← truncate? number
  if Float.ofInt value == number then some value else none

def shortWhole? (number : Float) : Option Int :=
  (whole? number).filter fun value => -2147483647 ≤ value && value ≤ 2147483647

def leastWhole : Int := -9223372036854775808

def greatestWhole : Int := 18446744073709551615

def formatNumber (format : Bytes) (number : Float) : Bytes :=
  let front := format.takeWhile (· != Ascii.percent)
  let (directive, rest) := Directive.readFlags {} ((format.drop front.length).drop 1)
  let width := rest.takeWhile isDigit
  let rest := rest.drop width.length
  let (precision, rest) := match rest with
    | Ascii.dot :: more =>
        let digits := more.takeWhile isDigit
        (some (Bytes.valueOf digits), more.drop digits.length)
    | rest => (none, rest)
  let letter := rest.headD 103
  let directive := { directive with width := Bytes.valueOf width, precision, letter }
  let shown :=
    if letter = 100 ∨ letter = 105 then directive.signed ((truncate? number).getD 0)
    else
      match Binary.ofFloat number with
      | .undefined _ => directive.binary Binary.double 1 (.undefined true)
      | value => directive.binary Binary.double 1 value
  front ++ shown ++ rest.drop 1

/-- The text of a number: whole numbers of a usual size have all their digits, others go by a
format. -/
def numberText (format : Bytes) (number : Float) : Bytes :=
  match shortWhole? number with
  | some value => .ofInt value
  | none => formatNumber format number

def toText (format : Bytes) : Value → Bytes
  | .unset => []
  | .float value => numberText format value
  | .text value | .input value _ => value

def isTrue : Value → Bool
  | .unset => false
  | .float value => value != 0
  | .text value => value != []
  | .input _ number => number != 0

def toKey (format : Bytes) : Value → Key
  | .float value =>
      match shortWhole? value with
      | some number => .number number
      | none => .text (numberText format value)
  | value => .text (value.toText format)

/-! Comparison. -/

def isNumeric : Value → Bool
  | .text _ => false
  | _ => true

def compareTexts : Bytes → Bytes → Ordering
  | [], [] => .eq
  | [], _ => .lt
  | _, [] => .gt
  | first :: left, second :: right =>
      if first < second then .lt else if second < first then .gt else compareTexts left right

/-- Compare two values: as numbers if both can be, as texts otherwise.  Numbers beyond comparison
are equal to all others. -/
def compare (format : Bytes) (left right : Value) : Ordering :=
  if left.isNumeric && right.isNumeric then
    let first := left.toNumber
    let second := right.toNumber
    if first < second then .lt else if second < first then .gt else .eq
  else compareTexts (left.toText format) (right.toText format)

/-! Arithmetic. -/

def remainder (left right : Float) : Float :=
  match Binary.ofFloat left, Binary.ofFloat right with
  | .finite negative first power, .finite _ second other =>
      if second = 0 then 0.0 / 0.0
      else
        let least := min power other
        let first := first * Nat.pow 2 (power - least).toNat
        let second := second * Nat.pow 2 (other - least).toNat
        (Binary.finite negative (first % second) least).toFloat
  | .finite _ _ _, .infinite _ => left
  | _, _ => 0.0 / 0.0

end Value

/-! Formats. -/

/-- How a format ends: with a text, too early for want of values, or at a directive that is not
known. -/
inductive Formatted where
  | complete (text : Bytes)
  | lacking (text : Bytes)
  | unknown (number : Nat) (text : Bytes)

/-- A number as formats take it: whole, and within the bounds of words. -/
def wordOf (number : Float) : Int :=
  match Value.truncate? number with
  | some value =>
      if value < Value.leastWhole then Value.leastWhole + 1 else min value Value.greatestWhole
  | none => if number > 0 then Value.greatestWhole else Value.leastWhole

def directiveText? (format : Bytes) (directive : Directive) (value : Value) : Option Bytes :=
  match Char.ofNat directive.letter.toNat with
  | 'd' | 'i' => some (directive.signed (wordOf value.toNumber))
  | 'o' | 'x' | 'X' | 'u' =>
      some (directive.unsigned (wordOf value.toNumber % 18446744073709551616).toNat)
  | 'e' | 'E' | 'f' | 'F' | 'g' | 'G' | 'a' | 'A' =>
      let number := match Binary.ofFloat value.toNumber with
        | .undefined _ => Binary.undefined true
        | number => number
      some (directive.binary Binary.double 1 number)
  | 's' => some (directive.text (value.toText format))
  | 'c' =>
      let byte := match value with
        | .text text => text.headD 0
        | value => (wordOf value.toNumber % 256).toNat.toUInt8
      some (directive.pad 0 false [byte])
  | _ => none

def readCount (input : Bytes) (values : List Value) : Option Int × Bytes × List Value × Bool :=
  match input, values with
  | Ascii.asterisk :: rest, value :: values => (some (wordOf value.toNumber), rest, values, true)
  | Ascii.asterisk :: rest, [] => (none, rest, [], false)
  | input, values =>
      let digits := input.takeWhile isDigit
      (if digits = [] then none else some (Bytes.valueOf digits), input.drop digits.length, values,
        true)

/-- Write values by a format; `shown` is the text so far, and `count` the number of the directives.
The number after it bounds the length of the format. -/
def formatFrom (convert : Bytes) (shown : Bytes) (count : Nat) :
    Nat → Bytes → List Value → Formatted
  | 0, _, _ => .complete shown
  | _, [], _ => .complete shown
  | bound + 1, byte :: rest, values =>
      if byte ≠ Ascii.percent then
        let plain := rest.takeWhile (· != Ascii.percent)
        formatFrom convert (shown ++ byte :: plain) count bound (rest.drop plain.length) values
      else if rest.head? = some Ascii.percent then
        formatFrom convert (shown ++ [byte]) count bound (rest.drop 1) values
      else
        let (directive, rest) := Directive.readFlags {} rest
        let (width, rest, values, given) := readCount rest values
        let (precision, rest, values, alsoGiven) := match rest with
          | Ascii.dot :: more =>
              let (count, rest, values, given) := readCount more values
              (some (count.getD 0), rest, values, given)
          | rest => (none, rest, values, true)
        let rest := rest.dropWhile fun byte => byte == 104 || byte == 108
        if !given ∨ !alsoGiven then .lacking shown
        else
          let width := width.getD 0
          let directive := { directive with
            left := directive.left || width < 0
            width := width.natAbs
            precision := (precision.filter (0 ≤ ·)).map Int.toNat
            letter := rest.headD 0 }
          match rest, values with
          | [], _ => .complete (shown ++ [byte])
          | _ :: rest, value :: values =>
              match directiveText? convert directive value with
              | some text => formatFrom convert (shown ++ text) (count + 1) bound rest values
              | none => .unknown (count + 1) shown
          | _ :: _, [] => .lacking shown

def format (convert format : Bytes) (values : List Value) : Formatted :=
  formatFrom convert [] 0 (format.length + 1) format values

end Rpn.Tool.Awk

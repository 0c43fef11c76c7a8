import Rpn.Text.Numeral
import Rpn.Text.Printf
import Rpn.Tool.Lines

/-! Tools that print their arguments or texts made from them.  Only serves the test environment. -/

namespace Rpn.Tool

open Host Text

/-! Plain words. -/

def echoEscapes : Escape.Manner :=
  { zero := true, stop := true, hexadecimal := true }

def isEchoOption (word : Bytes) : Bool :=
  match word with
  | Ascii.minus :: first :: rest => (first :: rest).all ((ascii "neE").contains ·)
  | _ => false

def echo : Main := fun arguments => do
  if arguments = [ascii "--help"] ∨ arguments = [ascii "--version"] then
    let _ ← Run.parse [] arguments
  let options := arguments.takeWhile isEchoOption
  let words := [Ascii.space].intercalate (arguments.drop options.length)
  let letters := options.flatten
  let escaped := (letters.filter fun letter => letter = 101 ∨ letter = 69).getLast? == some 101
  let (shown, stopped) := if escaped then Escape.replace echoEscapes words else (words, false)
  Run.say (if letters.contains 110 || stopped then shown else Bytes.line shown)
  return 0

/-! Words by a format. -/

def printfManner : Printf.Manner :=
  { format := { hexadecimal := true, unicode := true, quote := true, strict := true }
    argument := { zero := true, stop := true, hexadecimal := true, unicode := true, quote := true, strict := true }
    binary := Binary.extended, lead := 4, lengths := true, quote := some Quoting.forShell }

def printf : Main := fun arguments => do
  let words := if arguments.head? = some (ascii "--") then arguments.tail else arguments
  match words with
  | [] => Run.failWithHint (ascii "missing operand")
  | format :: rest =>
      let result := Printf.run printfManner format rest
      for concern in result.concerns do
        match concern with
        | .notNumber text =>
            Run.worry (Quoting.plain text ++ ascii ": expected a numeric value")
        | .incomplete text =>
            Run.worry (Quoting.plain text ++ ascii ": value not completely converted")
        | .outOfRange text =>
            Run.worry (Quoting.plain text ++ ascii ": Numerical result out of range")
        | .trailing text =>
            Run.complain (ascii "warning: " ++ text ++
              ascii ": character(s) following character constant have been ignored")
      Run.say result.text
      match result.ending with
      | .refused refusal =>
          let message := match refusal with
            | .directive text => text ++ ascii ": invalid conversion specification"
            | .unfinished text => text ++ ascii ": invalid conversion specification"
            | .escape => ascii "missing hexadecimal number in escape"
            | .width text => ascii "invalid field width: " ++ Quoting.plain text
          Run.fail message
      | _ =>
          match result.left with
          | extra :: _ =>
              Run.complain (ascii "warning: ignoring excess arguments, starting with " ++
                Quoting.plain extra)
          | [] => pure ()
          Run.status

def repeatLine (block : Bytes) : Nat → Run Unit
  | 0 => return ()
  | bound + 1 => do
      match ← Act.write 1 block with
      | .ok () => repeatLine block bound
      | .error fault => Run.fail (ascii "standard output: " ++ fault.message)

def yes : Main := fun arguments => do
  let parsed ← Run.options [] arguments true
  let words := if parsed.operands = [] then [ascii "y"] else parsed.operands
  let line := Bytes.line ([Ascii.space].intercalate words)
  repeatLine (List.replicate (max 1 (4096 / line.length)) line).flatten Act.unbounded
  Run.status

/-! Sequences of numbers. -/

/-- A number as digits of a scale, and how many of them come after the point.  `width` is how many
bytes it takes, and `precision` how many places it is written with, unless that depends on the
number. -/
structure Decimal where
  value : Int
  places : Nat
  width : Int := 0
  precision : Option Nat := some 0
  infinite : Bool := false

def exponentAfter? (letters : String) (text : Bytes) : Option Int :=
  match text with
  | [] => some 0
  | letter :: rest =>
      if !(ascii letters).contains letter then none
      else
        match rest with
        | Ascii.minus :: digits => (Bytes.toNat? digits).map fun value => -(value : Int)
        | Ascii.plus :: digits => (Bytes.toNat? digits).map fun value => (value : Int)
        | digits => (Bytes.toNat? digits).map fun value => (value : Int)

def readHexadecimal? (negative : Bool) (text : Bytes) : Option Decimal := do
  let isDigit := fun (byte : UInt8) => (Binary.hexValue? byte).isSome
  let whole := text.takeWhile isDigit
  let rest := text.drop whole.length
  let (places, rest) := match rest with
    | Ascii.dot :: rest => (rest.takeWhile isDigit, rest.dropWhile isDigit)
    | rest => ([], rest)
  if whole = [] ∧ places = [] then none
  let exponent ← exponentAfter? "pP" rest
  let digits : Nat := (whole ++ places).foldl
    (fun number byte => number * 16 + (Binary.hexValue? byte).getD 0) 0
  let power := exponent - 4 * places.length
  let signed : Int := if negative then -digits else digits
  let precision := if text.all isDigit then some 0 else none
  if 0 ≤ power then return { value := signed * Int.pow 2 power.toNat, places := 0, precision }
  else
    let count := (-power).toNat
    return { value := signed * Int.pow 5 count, places := count, precision }

def shapeOf (text : Bytes) : Int × Nat :=
  let mantissa := text.takeWhile fun byte => byte != 101 && byte != 69
  let hasExponent := mantissa.length < text.length
  let exponent := (exponentAfter? "eE" (text.drop mantissa.length)).getD 0
  let front := mantissa.takeWhile (· != Ascii.dot)
  let hasPoint := front.length < mantissa.length
  let fraction := mantissa.length - front.length - (if hasPoint then 1 else 0)
  let bare := !(front.getLast?.any isDigit)
  let width : Int := mantissa.length +
    (if hasPoint then (if fraction = 0 then -1 else if bare then 1 else 0) else 0)
  let precision := fraction
  if !hasExponent then (width, precision)
  else if exponent < 0 then
    let undone : Int := if hasPoint then (if fraction = 0 then 1 else 0) else 1
    (width + undone - exponent, precision + exponent.natAbs)
  else
    let precision := precision - min precision exponent.toNat
    let width := if hasPoint ∧ precision = 0 ∧ fraction ≠ 0 then width - 1 else width
    (width + (exponent.toNat - min fraction exponent.toNat : Nat), precision)

/-- Read a number: a decimal one with an optional exponent, one in base sixteen, or an endless
one. -/
def readDecimal? (text : Bytes) : Option Decimal := do
  let trimmed := text.dropWhile isSpace
  let (negative, unsigned) := match trimmed with
    | Ascii.plus :: rest => (false, rest)
    | Ascii.minus :: rest => (true, rest)
    | rest => (false, rest)
  let lower := unsigned.map toLower
  if lower = ascii "inf" ∨ lower = ascii "infinity" then
    return { value := if negative then -1 else 1, places := 0, infinite := true }
  if (ascii "0x").isPrefixOf lower then readHexadecimal? negative (unsigned.drop 2)
  else
    let (numeral, rest) := Numeral.read unsigned
    if numeral.negative ∨ (numeral.whole = [] ∧ numeral.places = []) then none
    let exponent ← exponentAfter? "eE" rest
    let places := ((numeral.places.length : Int) - exponent).toNat
    let value := numeral.scaled numeral.places.length
    let value := if (numeral.places.length : Int) < exponent then
        value * Int.pow 10 (exponent - numeral.places.length).toNat
      else value
    let (width, precision) := shapeOf (trimmed.dropWhile (· == Ascii.plus))
    return { value := if negative then -value else value, places, width, precision := some precision }

def Decimal.scaled (decimal : Decimal) (places : Nat) : Int :=
  decimal.value * Int.pow 10 (places - decimal.places)

def decimalText (value : Int) (scale places : Nat) : Bytes :=
  let digits := Bytes.ofNat value.natAbs
  let digits := List.replicate (scale + 1 - digits.length) Ascii.zero ++ digits
  let whole := digits.take (digits.length - scale)
  let rest := (digits.drop (digits.length - scale)).take places
  (if value < 0 then [Ascii.minus] else []) ++ whole ++
    (if places = 0 then [] else Ascii.dot :: rest)

def zeroFilled (width : Nat) (text : Bytes) : Bytes :=
  match text with
  | Ascii.minus :: digits => Ascii.minus :: List.replicate (width - text.length) Ascii.zero ++ digits
  | digits => List.replicate (width - text.length) Ascii.zero ++ digits

/-- Print the numbers of a sequence up to the last one, if there is one. -/
def sayNumbers (shown : Int → Bytes) (separator : Bytes) (step : Int) (last : Option Int) :
    Nat → Int → Bool → Run Unit
  | 0, _, _ => return ()
  | bound + 1, value, first => do
      let past := last.any fun last => if 0 < step then last < value else value < last
      if past then
        if !first then Run.say [Ascii.newline]
      else
        Run.say ((if first then [] else separator) ++ shown value)
        sayNumbers shown separator step last bound (value + step) false

def checkSeqFormat (format : Bytes) : Option Bytes :=
  let rest := (format.dropWhile (· != Ascii.percent))
  match rest with
  | [] => some (ascii "format " ++ Quoting.plain format ++ ascii " has no % directive")
  | _ :: rest =>
      let (_, rest) := Directive.readFlags {} rest
      let rest := rest.dropWhile fun byte => isDigit byte || byte == Ascii.dot
      match rest with
      | [] => some (ascii "format " ++ Quoting.plain format ++ ascii " ends in %")
      | letter :: _ =>
          if (ascii "efgaEFGA").contains letter then none
          else
            some (ascii "format " ++ Quoting.plain format ++ ascii " has unknown %" ++
              letter :: ascii " directive")

def seq : Main := fun arguments => do
  let isNumber := fun (argument : Bytes) =>
    match argument with
    | Ascii.minus :: rest => rest.head?.any fun byte => isDigit byte || byte == Ascii.dot
    | _ => false
  let front := arguments.takeWhile fun argument => !isNumber argument
  let divided := front.length < arguments.length && !front.contains (ascii "--")
  let arguments :=
    if divided then front ++ ascii "--" :: arguments.drop front.length else arguments
  let parsed ← Run.options
    [valued ["f", "format"], valued ["s", "separator"], flag ["w", "equal-width"]] arguments true
  let operands := if divided then parsed.operands.erase (ascii "--") else parsed.operands
  let read := fun (text : Bytes) => do
    match readDecimal? text with
    | some found => pure found
    | none =>
        Run.failWithHint (ascii "invalid floating point argument: " ++ Quoting.plain text)
  let one : Decimal := { value := 1, places := 0, width := 1, precision := some 0 }
  let (first, step, last) ← match operands with
    | [] => Run.failWithHint (ascii "missing operand")
    | [last] => pure (one, one, ← read last)
    | [first, last] => pure (← read first, one, ← read last)
    | [first, step, last] => pure (← read first, ← read step, ← read last)
    | _ :: _ :: _ :: extra :: _ => Run.failWithHint (ascii "extra operand " ++ Quoting.plain extra)
  if step.value = 0 then
    Run.failWithHint (ascii "invalid Zero increment value: " ++
      Quoting.plain (operands.getD 1 []))
  let scale := max first.places (max step.places last.places)
  let precision := match first.precision, step.precision, last.precision with
    | some one, some two, some _ => some (max one two)
    | _, _, _ => none
  let places := precision.getD 0
  let text := fun (value : Int) => decimalText value scale places
  let widthOf := fun (decimal : Decimal) =>
    let own := decimal.precision.getD 0
    decimal.width + ((places : Int) - own) + (if own = 0 ∧ places ≠ 0 then 1 else 0) -
      (if own ≠ 0 ∧ places = 0 then 1 else 0)
  let width := (max (widthOf first) (widthOf last)).toNat
  match (parsed.value? "f").bind checkSeqFormat with
  | some message => Run.fail message
  | none => pure ()
  let shown := fun (value : Int) =>
    match parsed.value? "f", precision with
    | some format, _ => (Printf.run printfManner format [decimalText value scale scale]).text
    | none, none =>
        (Printf.run printfManner (ascii "%g") [decimalText value scale scale]).text
    | none, some _ => if parsed.has "w" then zeroFilled width (text value) else text value
  let separator := (parsed.value? "s").getD [Ascii.newline]
  let isOver := last.infinite && (last.value < 0) == decide (0 < step.value)
  if !isOver then
    sayNumbers shown separator (step.scaled scale)
      (if last.infinite then none else some (last.scaled scale)) Act.unbounded
      (first.scaled scale) true
  Run.status

end Rpn.Tool

import Rpn.Text.ByteSet

/-! Binary numbers as they are read from texts and written out, without any loss on the way.  Only
serves the test environment. -/

namespace Rpn.Text

/-- A number `mantissa * 2 ^ exponent`, or a value beyond the numbers. -/
inductive Binary where
  | finite (negative : Bool) (mantissa : Nat) (exponent : Int)
  | infinite (negative : Bool)
  | undefined (negative : Bool)
  deriving DecidableEq, Repr

/-- How many bits a mantissa has, the least exponent, and the power of two that numbers do not
reach. -/
structure Binary.Format where
  bits : Nat
  least : Int
  limit : Int

namespace Binary

def double : Format := { bits := 53, least := -1074, limit := 1024 }

def extended : Format := { bits := 64, least := -16445, limit := 16384 }

def roundQuotient (numerator denominator : Nat) : Nat :=
  let quotient := numerator / denominator
  let twice := 2 * (numerator % denominator)
  if twice < denominator then quotient
  else if denominator < twice then quotient + 1
  else quotient + quotient % 2

def scale (base : Nat) (power : Int) (fraction : Nat × Nat) : Nat × Nat :=
  match power with
  | .ofNat power => (fraction.1 * Nat.pow base power, fraction.2)
  | .negSucc power => (fraction.1, fraction.2 * Nat.pow base (power + 1))

def ofFraction (format : Format) (negative : Bool) (fraction : Nat × Nat) : Binary :=
  if fraction.1 = 0 then .finite negative 0 0
  else
    let length : Int := (Nat.log2 fraction.1 : Int) - Nat.log2 fraction.2
    let low := length - format.bits
    let (numerator, denominator) := scale 2 (-low) fraction
    let exponent := if Nat.pow 2 format.bits ≤ numerator / denominator then low + 1 else low
    let exponent := max exponent format.least
    let (numerator, denominator) := scale 2 (-exponent) fraction
    let mantissa := roundQuotient numerator denominator
    if format.limit < exponent + (Nat.log2 mantissa + 1 : Nat) then .infinite negative
    else .finite negative mantissa exponent

/-! Reading. -/

def hexValue? (byte : UInt8) : Option Nat :=
  if isDigit byte then some (byte.toNat - 48)
  else if 97 ≤ byte && byte ≤ 102 then some (byte.toNat - 87)
  else if 65 ≤ byte && byte ≤ 70 then some (byte.toNat - 55)
  else none

/-- Digits with a point among them: the number without the point, and how many digits follow
it. -/
structure Digits where
  value : Nat := 0
  count : Nat := 0
  places : Nat := 0
  rest : Bytes

def readDigits (base : Nat) (input : Bytes) : Digits :=
  let isOne := fun byte => ((hexValue? byte).filter (· < base)).isSome
  let value := fun (start : Nat) (digits : Bytes) =>
    digits.foldl (fun number byte => number * base + (hexValue? byte).getD 0) start
  let whole := input.takeWhile isOne
  match input.drop whole.length with
  | Ascii.dot :: after =>
      let part := after.takeWhile isOne
      if whole = [] ∧ part = [] then { rest := input }
      else
        { value := value (value 0 whole) part, count := whole.length + part.length
          places := part.length, rest := after.drop part.length }
  | rest => { value := value 0 whole, count := whole.length, rest }

def readExponent (letter : UInt8) (input : Bytes) : Int × Bytes :=
  match input with
  | first :: rest =>
      if toLower first = letter then
        let (negative, digits) := match rest with
          | Ascii.minus :: rest => (true, rest)
          | Ascii.plus :: rest => (false, rest)
          | rest => (false, rest)
        if startsWithDigit digits then
          let found := digits.takeWhile isDigit
          let value : Int := min (Bytes.valueOf found) 100000
          (if negative then -value else value, digits.drop found.length)
        else (0, input)
      else (0, input)
  | [] => (0, [])

def beginsWith (word : String) (text : Bytes) : Bool :=
  (ascii word).isPrefixOf (text.map toLower)

def readMagnitude? (format : Format) (negative : Bool) (input : Bytes) :
    Option (Binary × Bytes) :=
  if beginsWith "infinity" input then some (.infinite negative, input.drop 8)
  else if beginsWith "inf" input then some (.infinite negative, input.drop 3)
  else if beginsWith "nan" input then some (.undefined negative, input.drop 3)
  else
    let hexadecimal := if beginsWith "0x" input then readDigits 16 (input.drop 2)
      else { rest := [] }
    if 0 < hexadecimal.count then
      let (exponent, rest) := readExponent 112 hexadecimal.rest
      let power := exponent - 4 * hexadecimal.places
      some (ofFraction format negative (scale 2 power (hexadecimal.value, 1)), rest)
    else
      let decimal := readDigits 10 input
      if decimal.count = 0 then none
      else
        let (exponent, rest) := readExponent 101 decimal.rest
        let power := exponent - decimal.places
        some (ofFraction format negative (scale 10 (min power 20000) (decimal.value, 1)), rest)

def readPrefix? (format : Format) (text : Bytes) : Option (Binary × Bytes) :=
  match text.dropWhile isSpace with
  | Ascii.minus :: rest => readMagnitude? format true rest
  | Ascii.plus :: rest => readMagnitude? format false rest
  | rest => readMagnitude? format false rest

/-! Floats of the machine. -/

def ofFloat (number : Float) : Binary :=
  let bits := number.toBits.toNat
  let negative := 9223372036854775808 ≤ bits
  let exponent := bits / 4503599627370496 % 2048
  let fraction := bits % 4503599627370496
  if exponent = 2047 then if fraction = 0 then .infinite negative else .undefined negative
  else if exponent = 0 then .finite negative fraction (-1074)
  else .finite negative (fraction + 4503599627370496) ((exponent : Int) - 1075)

def toFloat : Binary → Float
  | infinite true => -1.0 / 0.0
  | infinite false => 1.0 / 0.0
  | undefined _ => 0.0 / 0.0
  | finite negative mantissa exponent =>
      let sign : Nat := if negative then 9223372036854775808 else 0
      match ofFraction double negative (scale 2 exponent (mantissa, 1)) with
      | .finite _ mantissa exponent => Float.ofBits (sign + encode mantissa exponent).toUInt64
      | _ => Float.ofBits (sign + 9218868437227405312).toUInt64
where
  encode (mantissa : Nat) (exponent : Int) : Nat :=
    if mantissa = 0 then 0
    else
      let shift := 52 - Nat.log2 mantissa
      let shift := if exponent - shift < -1074 then (exponent + 1074).toNat else shift
      let mantissa := mantissa * Nat.pow 2 shift
      let exponent := exponent - shift
      if mantissa < 4503599627370496 then mantissa
      else (exponent + 1075).toNat * 4503599627370496 + (mantissa - 4503599627370496)

/-! Writing. -/

def isNegative : Binary → Bool
  | finite negative _ _ | infinite negative | undefined negative => negative

def withPoint (places : Nat) (point : Bool) (digits : Bytes) : Bytes :=
  let digits := List.replicate (places + 1 - digits.length) Ascii.zero ++ digits
  let whole := digits.take (digits.length - places)
  if places = 0 ∧ ¬ point then whole
  else whole ++ Ascii.dot :: digits.drop (digits.length - places)

def fixed (places : Nat) (point : Bool) (mantissa : Nat) (exponent : Int) : Bytes :=
  let (numerator, denominator) := scale 2 exponent (mantissa * Nat.pow 10 places, 1)
  withPoint places point (.ofNat (roundQuotient numerator denominator))

def magnitude (fraction : Nat × Nat) : Int :=
  let (numerator, denominator) := fraction
  if denominator ≤ numerator then ((Bytes.ofNat (numerator / denominator)).length : Int) - 1
  else
    let length := (Bytes.ofNat (denominator / numerator)).length
    if denominator ≤ numerator * Nat.pow 10 (length - 1) then 1 - (length : Int)
    else -(length : Int)

def leadingDigits (places : Nat) (mantissa : Nat) (exponent : Int) : Bytes × Int :=
  if mantissa = 0 then (List.replicate (places + 1) Ascii.zero, 0)
  else
    let fraction := scale 2 exponent (mantissa, 1)
    let power := magnitude fraction
    let (numerator, denominator) := scale 10 (places - power) fraction
    let digits := Bytes.ofNat (roundQuotient numerator denominator)
    if places + 1 < digits.length then (digits.take (places + 1), power + 1) else (digits, power)

def exponentText (letter : UInt8) (power : Int) : Bytes :=
  let digits := Bytes.ofNat power.natAbs
  let digits := List.replicate (2 - digits.length) Ascii.zero ++ digits
  letter :: (if power < 0 then Ascii.minus else Ascii.plus) :: digits

def scientific (letter : UInt8) (places : Nat) (point : Bool) (mantissa : Nat)
    (exponent : Int) : Bytes :=
  let (digits, power) := leadingDigits places mantissa exponent
  withPoint places point digits ++ exponentText letter power

def dropTrailingZeros (digits : Bytes) : Bytes :=
  (digits.reverse.dropWhile (· == Ascii.zero)).reverse

/-- A magnitude with a number of significant digits, in the form that suits its size.  Zeros at the
end are kept with `point` only. -/
def general (letter : UInt8) (precision : Nat) (point : Bool) (mantissa : Nat)
    (exponent : Int) : Bytes :=
  let precision := max precision 1
  let (digits, power) := leadingDigits (precision - 1) mantissa exponent
  let digits := if point then digits else digits.take 1 ++ dropTrailingZeros (digits.drop 1)
  if power < -4 ∨ (precision : Int) ≤ power then
    withPoint (digits.length - 1) point digits ++ exponentText letter power
  else if power < 0 then
    let digits := if digits = [Ascii.zero] then digits
      else List.replicate power.natAbs Ascii.zero ++ digits
    withPoint (digits.length - 1) point digits
  else
    let whole := power.toNat + 1
    let digits := digits ++ List.replicate (whole - digits.length) Ascii.zero
    withPoint (digits.length - whole) point digits

def hexDigits (number : Nat) : Bytes :=
  (Nat.toDigits 16 number).map Char.toUInt8

/-- A magnitude in base sixteen.  `lead` bits stand before the point, and with no precision all
digits are written. -/
def hexadecimal (format : Format) (lead : Nat) (precision : Option Nat) (point : Bool)
    (mantissa : Nat) (exponent : Int) : Bytes :=
  let bits := format.bits
  let (mantissa, power) : Nat × Int :=
    if mantissa = 0 then (0, 0)
    else
      let length := Nat.log2 mantissa + 1
      let shift := bits - length
      (mantissa * Nat.pow 2 shift, exponent - shift + (bits - lead : Nat))
  let places := (bits - lead + 3) / 4
  let mantissa := mantissa * Nat.pow 2 (4 * places - (bits - lead))
  let (mantissa, places) := match precision with
    | some wanted =>
        if wanted < places then (roundQuotient mantissa (Nat.pow 16 (places - wanted)), wanted)
        else (mantissa * Nat.pow 16 (wanted - places), wanted)
    | none => (mantissa, places)
  let digits := hexDigits mantissa
  let digits := List.replicate (places + 1 - digits.length) Ascii.zero ++ digits
  let whole := digits.take (digits.length - places)
  let part := digits.drop (digits.length - places)
  let part := if precision.isSome then part else dropTrailingZeros part
  let sign := if power < 0 then Ascii.minus else Ascii.plus
  ascii "0x" ++ whole ++ (if part ≠ [] ∨ point then Ascii.dot :: part else []) ++
    112 :: sign :: Bytes.ofNat power.natAbs

end Binary

end Rpn.Text

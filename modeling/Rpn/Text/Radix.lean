import Rpn.Bytes

/-! Bytes written with the digits of an alphabet, some bits in each digit.  Only serves the test
environment. -/

namespace Rpn.Text

/-- An alphabet: its digits, how many bits each of them holds, and how many digits make up a
group. -/
structure Radix where
  digits : Bytes
  bits : Nat
  group : Nat

namespace Radix

def upperLetters : String := "ABCDEFGHIJKLMNOPQRSTUVWXYZ"

def lowerLetters : String := "abcdefghijklmnopqrstuvwxyz"

def sixtyFour : Radix :=
  { digits := ascii (upperLetters ++ lowerLetters ++ "0123456789+/"), bits := 6, group := 4 }

def thirtyTwo : Radix :=
  { digits := ascii (upperLetters ++ "234567"), bits := 5, group := 8 }

def size (radix : Radix) : Nat :=
  radix.group * radix.bits / 8

def digitCount (radix : Radix) (bytes : Nat) : Nat :=
  (8 * bytes + radix.bits - 1) / radix.bits

def number (bytes : Bytes) : Nat :=
  bytes.foldl (fun value byte => value * 256 + byte.toNat) 0

def digitsOf (radix : Radix) (count value : Nat) : Bytes :=
  (List.range count).reverse.map fun place =>
    radix.digits.getD (value / Nat.pow 2 (radix.bits * place) % Nat.pow 2 radix.bits) Ascii.equals

def encodeGroup (radix : Radix) (bytes : Bytes) : Bytes :=
  let count := radix.digitCount bytes.length
  let spare := count * radix.bits - 8 * bytes.length
  let digits := radix.digitsOf count (number bytes * Nat.pow 2 spare)
  digits ++ List.replicate (radix.group - count) Ascii.equals

def encodeFrom (radix : Radix) : Nat → Bytes → Bytes
  | 0, _ => []
  | _, [] => []
  | bound + 1, bytes =>
      radix.encodeGroup (bytes.take radix.size) ++ encodeFrom radix bound (bytes.drop radix.size)

def encode (radix : Radix) (bytes : Bytes) : Bytes :=
  radix.encodeFrom bytes.length bytes

def isDigit (radix : Radix) (byte : UInt8) : Bool :=
  radix.digits.contains byte

def decodeGroup (radix : Radix) (text : Bytes) : Bytes × Bool :=
  let digits := text.takeWhile radix.isDigit
  let rest := text.drop digits.length
  let count := digits.length * radix.bits / 8
  let value := digits.foldl (fun value digit =>
    value * Nat.pow 2 radix.bits + (radix.digits.idxOf? digit).getD 0) 0
  let spare := digits.length * radix.bits - 8 * count
  let bytes := (List.range count).reverse.map fun place =>
    UInt8.ofNat (value / Nat.pow 2 (spare + 8 * place))
  let isRight := text.length = radix.group ∧ 0 < count ∧
    digits.length = radix.digitCount count ∧ rest.all (· == Ascii.equals)
  (bytes, isRight)

def decodeFrom (radix : Radix) (keepsPart : Bool) : Nat → Bytes → Bytes × Bool
  | 0, _ => ([], true)
  | _, [] => ([], true)
  | bound + 1, text =>
      let group := text.take radix.group
      let (bytes, isRight) := radix.decodeGroup group
      if isRight then
        let (rest, isRestRight) := decodeFrom radix keepsPart bound (text.drop radix.group)
        (bytes ++ rest, isRestRight)
      else (if keepsPart ∨ group.length = radix.group then bytes else [], false)

/-- Read digits; line ends between them do not count.  The second part says whether all of them are
right. -/
def decode (radix : Radix) (text : Bytes) : Bytes × Bool :=
  let text := text.filter (· ≠ Ascii.newline)
  radix.decodeFrom (radix.bits == 6) text.length text

end Radix

end Rpn.Text

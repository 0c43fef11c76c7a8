import Rpn.Text.Binary

/-! Escapes: what a backslash makes of the bytes after it.  Only serves the test environment. -/

namespace Rpn.Text.Escape

/-- Which escapes a text may hold.  With `zero`, octal digits after a zero are three more; `stop`
ends the output; `hexadecimal` and `unicode` are numbers in base sixteen; `quote` stands for a
double quote. -/
structure Manner where
  zero : Bool := false
  stop : Bool := false
  hexadecimal : Bool := false
  unicode : Bool := false
  quote : Bool := false
  octal : Bool := true
  strict : Bool := false

inductive Found where
  | bytes (shown : Bytes) (rest : Bytes)
  | stop
  | invalid

def isOctalDigit (byte : UInt8) : Bool :=
  48 ≤ byte && byte ≤ 55

def octalValue (digits : Bytes) : Nat :=
  digits.foldl (fun number byte => number * 8 + Bytes.digitValue byte) 0

def letters : List (UInt8 × UInt8) :=
  (ascii "abefnrtv\\").zip [7, 8, 27, 12, 10, 13, 9, 11, 92]

def encodeCodePoint (code : Nat) : Bytes :=
  if code < 128 then [code.toUInt8]
  else if code < 2048 then [(192 + code / 64).toUInt8, (128 + code % 64).toUInt8]
  else if code < 65536 then
    [(224 + code / 4096).toUInt8, (128 + code / 64 % 64).toUInt8, (128 + code % 64).toUInt8]
  else
    [(240 + code / 262144).toUInt8, (128 + code / 4096 % 64).toUInt8,
      (128 + code / 64 % 64).toUInt8, (128 + code % 64).toUInt8]

/-- At most `count` digits in base sixteen at the front of a text. -/
def hexDigits (count : Nat) (input : Bytes) : Bytes :=
  (input.take count).takeWhile fun byte => (Binary.hexValue? byte).isSome

def hexValue (digits : Bytes) : Nat :=
  digits.foldl (fun number byte => number * 16 + (Binary.hexValue? byte).getD 0) 0

def read (manner : Manner) (input : Bytes) : Found :=
  match input with
  | [] => .bytes [Ascii.backslash] []
  | letter :: rest =>
      let plain := Found.bytes [Ascii.backslash, letter] rest
      if manner.zero && letter == Ascii.zero then
        let digits := (rest.take 3).takeWhile isOctalDigit
        .bytes [(octalValue digits).toUInt8] (rest.drop digits.length)
      else if manner.octal && isOctalDigit letter then
        let digits := (input.take 3).takeWhile isOctalDigit
        .bytes [(octalValue digits).toUInt8] (input.drop digits.length)
      else
        match letters.lookup letter, Char.ofNat letter.toNat with
        | some byte, _ => .bytes [byte] rest
        | none, 'c' => if manner.stop then .stop else plain
        | none, '"' => if manner.quote then .bytes [Ascii.doubleQuote] rest else plain
        | none, 'x' =>
            let digits := hexDigits 2 rest
            if !manner.hexadecimal then plain
            else if digits = [] then if manner.strict then .invalid else plain
            else .bytes [(hexValue digits).toUInt8] (rest.drop digits.length)
        | none, 'u' => unicode 4 plain rest
        | none, 'U' => unicode 8 plain rest
        | none, _ => plain
where
  unicode (count : Nat) (plain : Found) (rest : Bytes) : Found :=
    let digits := hexDigits count rest
    if !manner.unicode then plain
    else if manner.strict && digits.length < count then .invalid
    else if digits = [] then plain
    else .bytes (encodeCodePoint (hexValue digits)) (rest.drop digits.length)

/-- A whole text with its escapes replaced, and whether it asks to stop. -/
def replaceFrom (manner : Manner) : Nat → Bytes → Bytes × Bool
  | 0, _ => ([], false)
  | _, [] => ([], false)
  | bound + 1, byte :: rest =>
      if byte = Ascii.backslash then
        match read manner rest with
        | .bytes shown rest =>
            let (others, stopped) := replaceFrom manner bound rest
            (shown ++ others, stopped)
        | .stop | .invalid => ([], true)
      else
        let (others, stopped) := replaceFrom manner bound rest
        (byte :: others, stopped)

def replace (manner : Manner) (text : Bytes) : Bytes × Bool :=
  replaceFrom manner (text.length + 1) text

end Rpn.Text.Escape

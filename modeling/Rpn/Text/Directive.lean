import Rpn.Text.Binary

/-! Directives that say how a value is written: flags, a width, a precision and a letter.  Only
serves the test environment. -/

namespace Rpn.Text

structure Directive where
  left : Bool := false
  plus : Bool := false
  blank : Bool := false
  alternate : Bool := false
  zero : Bool := false
  width : Nat := 0
  precision : Option Nat := none
  letter : UInt8 := 115

namespace Directive

def setFlag? (directive : Directive) (byte : UInt8) : Option Directive :=
  match Char.ofNat byte.toNat with
  | '-' => some { directive with left := true }
  | '+' => some { directive with plus := true }
  | ' ' => some { directive with blank := true }
  | '#' => some { directive with alternate := true }
  | '0' => some { directive with zero := true }
  | _ => none

def readFlags (directive : Directive) : Bytes → Directive × Bytes
  | [] => (directive, [])
  | byte :: rest =>
      match directive.setFlag? byte with
      | some directive => readFlags directive rest
      | none => (directive, byte :: rest)

def readSizes (input : Bytes) : Directive × Bytes :=
  let (directive, after) := readFlags {} input
  let digits := after.takeWhile isDigit
  let directive := { directive with width := Bytes.valueOf digits }
  match after.drop digits.length with
  | Ascii.dot :: more =>
      let digits := more.takeWhile isDigit
      ({ directive with precision := some (Bytes.valueOf digits) }, more.drop digits.length)
  | after => (directive, after)

/-- A text filled up to the width.  Zeros come after the first `sign` bytes. -/
def pad (directive : Directive) (sign : Nat) (zero : Bool) (text : Bytes) : Bytes :=
  let missing := directive.width - text.length
  if directive.left then text ++ List.replicate missing Ascii.space
  else if zero then text.take sign ++ List.replicate missing Ascii.zero ++ text.drop sign
  else List.replicate missing Ascii.space ++ text

def text (directive : Directive) (text : Bytes) : Bytes :=
  let shown := match directive.precision with
    | some count => text.take count
    | none => text
  directive.pad 0 false shown

def signText (directive : Directive) (negative : Bool) : Bytes :=
  if negative then [Ascii.minus]
  else if directive.plus then [Ascii.plus]
  else if directive.blank then [Ascii.space]
  else []

/-- The digits of a number, at least as many as the precision says, and none for zero with
precision zero. -/
def digitsText (directive : Directive) (digits : Bytes) : Bytes :=
  match directive.precision with
  | some count =>
      if count = 0 ∧ digits = [Ascii.zero] then []
      else List.replicate (count - digits.length) Ascii.zero ++ digits
  | none => digits

def signed (directive : Directive) (value : Int) : Bytes :=
  let sign := directive.signText (value < 0)
  directive.pad sign.length (directive.zero && directive.precision.isNone)
    (sign ++ directive.digitsText (.ofNat value.natAbs))

def unsigned (directive : Directive) (value : Nat) : Bytes :=
  let zero := directive.zero && directive.precision.isNone
  match Char.ofNat directive.letter.toNat with
  | 'o' =>
      let digits := directive.digitsText ((Nat.toDigits 8 value).map Char.toUInt8)
      let digits := if directive.alternate ∧ digits.head? ≠ some Ascii.zero then
          Ascii.zero :: digits
        else digits
      directive.pad 0 zero digits
  | 'x' =>
      let start := if directive.alternate ∧ value ≠ 0 then ascii "0x" else []
      directive.pad start.length zero (start ++ directive.digitsText (Binary.hexDigits value))
  | 'X' =>
      let start := if directive.alternate ∧ value ≠ 0 then ascii "0X" else []
      directive.pad start.length zero
        (start ++ (directive.digitsText (Binary.hexDigits value)).map toUpper)
  | _ => directive.pad 0 zero (directive.digitsText (.ofNat value))

/-- A binary number in the form that the letter asks for.  The format and `lead` decide how
base sixteen is written. -/
def binary (directive : Directive) (format : Binary.Format) (lead : Nat) (value : Binary) :
    Bytes :=
  let sign := directive.signText value.isNegative
  let lower := toLower directive.letter
  let isUpperCase := isUpper directive.letter
  let shown := match value with
    | .infinite _ => ascii "inf"
    | .undefined _ => ascii "nan"
    | .finite _ mantissa exponent =>
        let places := directive.precision.getD 6
        let point := directive.alternate
        match Char.ofNat lower.toNat with
        | 'f' => Binary.fixed places point mantissa exponent
        | 'e' => Binary.scientific 101 places point mantissa exponent
        | 'a' => Binary.hexadecimal format lead directive.precision point mantissa exponent
        | _ => Binary.general 101 places point mantissa exponent
  let shown := if isUpperCase then shown.map toUpper else shown
  let finite : Bool := match value with
    | .finite _ _ _ => true
    | _ => false
  let start := if lower == 97 && finite then sign.length + 2 else sign.length
  directive.pad start (directive.zero && finite) (sign ++ shown)

end Directive

end Rpn.Text

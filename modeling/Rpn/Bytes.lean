/-! Byte texts.  Every text of the library is a list of bytes, and columns count bytes. -/

namespace Rpn

abbrev Bytes := List UInt8

/-- The bytes of a text written with ASCII characters only. -/
def ascii (text : String) : Bytes :=
  text.toList.map Char.toUInt8

/-! The bytes that the readers and printers of the library name. -/

namespace Ascii

@[match_pattern] abbrev tab : UInt8 := 9
@[match_pattern] abbrev newline : UInt8 := 10
@[match_pattern] abbrev carriageReturn : UInt8 := 13
@[match_pattern] abbrev space : UInt8 := 32
@[match_pattern] abbrev exclamation : UInt8 := 33
@[match_pattern] abbrev doubleQuote : UInt8 := 34
@[match_pattern] abbrev hash : UInt8 := 35
@[match_pattern] abbrev dollar : UInt8 := 36
@[match_pattern] abbrev percent : UInt8 := 37
@[match_pattern] abbrev ampersand : UInt8 := 38
@[match_pattern] abbrev singleQuote : UInt8 := 39
@[match_pattern] abbrev openParenthesis : UInt8 := 40
@[match_pattern] abbrev closeParenthesis : UInt8 := 41
@[match_pattern] abbrev asterisk : UInt8 := 42
@[match_pattern] abbrev plus : UInt8 := 43
@[match_pattern] abbrev comma : UInt8 := 44
@[match_pattern] abbrev minus : UInt8 := 45
@[match_pattern] abbrev dot : UInt8 := 46
@[match_pattern] abbrev slash : UInt8 := 47
@[match_pattern] abbrev zero : UInt8 := 48
@[match_pattern] abbrev nine : UInt8 := 57
@[match_pattern] abbrev colon : UInt8 := 58
@[match_pattern] abbrev semicolon : UInt8 := 59
@[match_pattern] abbrev less : UInt8 := 60
@[match_pattern] abbrev equals : UInt8 := 61
@[match_pattern] abbrev greater : UInt8 := 62
@[match_pattern] abbrev question : UInt8 := 63
@[match_pattern] abbrev atSign : UInt8 := 64
@[match_pattern] abbrev openBracket : UInt8 := 91
@[match_pattern] abbrev backslash : UInt8 := 92
@[match_pattern] abbrev closeBracket : UInt8 := 93
@[match_pattern] abbrev caret : UInt8 := 94
@[match_pattern] abbrev underscore : UInt8 := 95
@[match_pattern] abbrev backquote : UInt8 := 96
@[match_pattern] abbrev openBrace : UInt8 := 123
@[match_pattern] abbrev bar : UInt8 := 124
@[match_pattern] abbrev closeBrace : UInt8 := 125
@[match_pattern] abbrev tilde : UInt8 := 126

end Ascii

def isDigit (byte : UInt8) : Bool :=
  Ascii.zero ≤ byte && byte ≤ Ascii.nine

/-- A blank separates lexemes: space, tab, line feed or carriage return. -/
def isBlank (byte : UInt8) : Bool :=
  byte == Ascii.space || byte == Ascii.tab || byte == Ascii.newline ||
    byte == Ascii.carriageReturn

def startsWithDigit : Bytes → Bool
  | [] => false
  | byte :: _ => isDigit byte

namespace Bytes

/-- The decimal digits of a number, without leading zeros. -/
def ofNat (number : Nat) : Bytes :=
  (Nat.toDigits 10 number).map Char.toUInt8

def ofInt : Int → Bytes
  | .ofNat number => ofNat number
  | .negSucc number => Ascii.minus :: ofNat (number + 1)

def digitValue (byte : UInt8) : Nat :=
  byte.toNat - Ascii.zero.toNat

/-- The number that a row of digits stands for. -/
def valueOf (digits : Bytes) : Nat :=
  digits.foldl (fun number byte => number * 10 + digitValue byte) 0

/-- The number that a text of digits stands for; there is none for any other text. -/
def toNat? (text : Bytes) : Option Nat :=
  if text ≠ [] && text.all isDigit then some (valueOf text) else none

/-- The part of a text before its first NUL byte: what a reader of
NUL-terminated text sees of it. -/
def untilNul (text : Bytes) : Bytes :=
  text.takeWhile (· != 0)

/-- A text written as one line. -/
def line (text : Bytes) : Bytes :=
  text ++ [Ascii.newline]

end Bytes

end Rpn

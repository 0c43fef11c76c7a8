import Rpn.Text.Escape
import Rpn.Tool.Basic

/-! How names appear in messages.  Only serves the test environment. -/

namespace Rpn.Tool.Quoting

def isSpecial (byte : UInt8) : Bool :=
  (ascii " !\"$&()*;<=>[^`|?\\:").contains byte

def suitsDoubleQuotes (byte : UInt8) : Bool :=
  isDigit byte || Text.isLetter byte || (ascii " '%+,-./:]_").contains byte

def isShown (byte : UInt8) : Bool :=
  32 ≤ byte && byte ≤ 126

def isPlain (name : Bytes) : Bool :=
  !name.isEmpty && !(name.any fun byte => isSpecial byte || !isShown byte ||
    byte == Ascii.singleQuote) &&
    !(name.head?.any fun byte => byte == Ascii.hash || byte == Ascii.tilde) &&
    name != [Ascii.openBrace] && name != [Ascii.closeBrace]

def octalEscape (byte : UInt8) : Bytes :=
  match ([7, 8, 9, 10, 11, 12, 13] : Bytes).zip (ascii "abtnvfr") |>.lookup byte with
  | some letter => [Ascii.backslash, letter]
  | none =>
      let digits := (Nat.toDigits 8 byte.toNat).map Char.toUInt8
      Ascii.backslash :: (List.replicate (3 - digits.length) Ascii.zero ++ digits)

/-- The parts of a name between single quotes, with bytes that cannot be shown between `$'` and
`'`.  `escaped` says that such bytes come before. -/
def quotedBody : Bool → Bytes → Bytes
  | escaped, [] => if escaped then ascii "'" else []
  | escaped, byte :: rest =>
      if byte = Ascii.singleQuote then
        (if escaped then ascii "''" else []) ++ ascii "'\\''" ++ quotedBody false rest
      else if isShown byte then
        (if escaped then ascii "''" else []) ++ byte :: quotedBody false rest
      else (if escaped then [] else ascii "'$'") ++ octalEscape byte ++ quotedBody true rest

def always (name : Bytes) : Bytes :=
  if name.contains Ascii.singleQuote ∧ name.all suitsDoubleQuotes then
    Ascii.doubleQuote :: name ++ [Ascii.doubleQuote]
  else
    let body := quotedBody false name
    let lastEscaped := name.getLast?.any fun byte => !isShown byte
    Ascii.singleQuote :: body ++ (if lastEscaped then [] else [Ascii.singleQuote])

def whenNeeded (name : Bytes) : Bytes :=
  if isPlain name then name else always name

def forShell (word : Bytes) : Bytes :=
  if isPlain (word.filter (· != Ascii.colon)) ∨ (word ≠ [] ∧ word.all (· == Ascii.colon)) then word
  else always word

def plain (text : Bytes) : Bytes :=
  Ascii.singleQuote :: (text.flatMap fun byte =>
    if byte = Ascii.singleQuote ∨ byte = Ascii.backslash then [Ascii.backslash, byte]
    else if isShown byte then [byte]
    else octalEscape byte) ++ [Ascii.singleQuote]

end Rpn.Tool.Quoting

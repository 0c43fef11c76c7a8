import Rpn.Shell.Parameter

/-! How variables and texts are shown such that they can be read again.  Part of the test
environment. -/

namespace Rpn.Shell.Display

def doubleQuoted (text : Bytes) : Bytes :=
  if text.all fun byte => Parameter.isPrintable byte then
    ascii "\"" ++ (text.flatMap fun byte =>
      if (ascii "\"\\$`").contains byte then [Ascii.backslash, byte] else [byte]) ++ ascii "\""
  else ascii "$'" ++ text.flatMap Parameter.escapedByte ++ ascii "'"

def attributeLetters (entry : Variable) : Bytes :=
  (match entry.shape with
  | .text => []
  | .list => ascii "a"
  | .table => ascii "A") ++
    (if entry.integer then ascii "i" else []) ++ (if entry.reference then ascii "n" else []) ++
    (if entry.readOnly then ascii "r" else []) ++ (if entry.exported then ascii "x" else []) ++
    (match entry.recase with
    | some true => ascii "u"
    | some false => ascii "l"
    | none => [])

def hasMeaning (text : Bytes) : Bool :=
  text.isEmpty || (text.any fun byte => (ascii " \t\n'\"\\|&;()<>!\x7b\x7d*[]?^$`").contains byte) ||
    text.head?.any fun byte => byte == Ascii.hash || byte == Ascii.tilde

def keyText (key : Bytes) : Bytes :=
  if hasMeaning key ∨ key = ascii "@" ∨ key = ascii "*" then doubleQuoted key else key

def valueText : Value → Bytes
  | .text text => doubleQuoted text
  | .list elements =>
      let shown := elements.map fun (number, text) =>
        ascii "[" ++ Bytes.ofNat number ++ ascii "]=" ++ doubleQuoted text
      ascii "(" ++ (shown.intersperse [Ascii.space]).flatten ++ ascii ")"
  | .table elements =>
      let shown := elements.flatMap fun (key, text) =>
        ascii "[" ++ keyText key ++ ascii "]=" ++ doubleQuoted text ++ [Ascii.space]
      ascii "(" ++ shown ++ ascii ")"

def declaration (name : Bytes) (entry : Variable) : Bytes :=
  let letters := attributeLetters entry
  let letters := if letters = [] then ascii "-" else letters
  let value := match entry.value with
    | some value => Ascii.equals :: valueText value
    | none => []
  ascii "declare -" ++ letters ++ Ascii.space :: name ++ value

def assignment (name : Bytes) (entry : Variable) : Bytes :=
  match entry.value, attributeLetters entry with
  | some (.text text), [] => name ++ Ascii.equals :: Parameter.quotedForm text
  | some (.text text), letters =>
      ascii "declare -" ++ letters ++ Ascii.space :: name ++ Ascii.equals ::
        Parameter.quotedForm text
  | some value, letters =>
      ascii "declare -" ++ letters ++ Ascii.space :: name ++ Ascii.equals :: valueText value
  | none, [] => []
  | none, letters => ascii "declare -" ++ letters ++ Ascii.space :: name

end Rpn.Shell.Display

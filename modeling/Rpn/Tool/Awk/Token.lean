import Rpn.Text.Escape

/-! Tokens of programs.  Only serves the test environment. -/

namespace Rpn.Tool.Awk

open Text

inductive Token where
  | number (text : Bytes)
  | literal (value : Bytes)
  | regex (source : Bytes)
  | name (name : Bytes)
  | function (name : Bytes)
  | builtin (name : Bytes)
  | keyword (word : String)
  | symbol (text : String)
  | newline
  | finish
  deriving DecidableEq

structure Placed where
  token : Token
  line : Nat
  shown : Bytes

structure Flaw where
  line : Option Nat
  message : Bytes

namespace Token

def keywords : List String :=
  [ "BEGIN", "END", "function", "if", "else", "while", "for", "do", "break", "continue", "next",
    "nextfile", "exit", "return", "delete", "in", "getline", "print", "printf" ]

def builtins : List String :=
  [ "length", "substr", "index", "split", "sub", "gsub", "match", "sprintf", "sin", "cos", "atan2",
    "exp", "log", "sqrt", "int", "rand", "srand", "tolower", "toupper", "system", "close",
    "fflush", "strftime", "mktime", "systime" ]

def symbols : List String :=
  [ "\x7b", "\x7d", "(", ")", "[", "]", ";", ",", "+=", "-=", "*=", "/=", "%=", "^=", "==", "<=",
    ">=", "!=", "++", "--", "&&", "||", ">>", "!~", "+", "-", "*", "/", "%", "^", "!", ">", "<",
    "|", "?", ":", "~", "$", "=" ]

def endsOperand : Token → Bool
  | .number _ | .literal _ | .regex _ | .name _ | .builtin _ => true
  | .symbol shown => [")", "]", "$", "++", "--"].contains shown
  | _ => false

def isNameStart (byte : UInt8) : Bool :=
  isLetter byte || byte == Ascii.underscore

def isNameByte (byte : UInt8) : Bool :=
  isNameStart byte || isDigit byte

def unquote : Nat → Bytes → Option (Bytes × Bytes)
  | 0, _ => none
  | _, [] => none
  | bound + 1, byte :: rest =>
      if byte = Ascii.doubleQuote then some ([], rest)
      else if byte = Ascii.newline then none
      else if byte = Ascii.backslash then
        match rest with
        | [] => none
        | letter :: after =>
            let known := (ascii "\"\\abfnrtv").zip ([34, 92, 7, 8, 12, 10, 13, 9, 11] : Bytes)
            let digits := (rest.take 3).takeWhile Escape.isOctalDigit
            if letter = Ascii.newline then unquote bound after
            else if digits ≠ [] then do
              let (text, others) ← unquote bound (rest.drop digits.length)
              return ((Escape.octalValue digits).toUInt8 :: text, others)
            else do
              let (text, others) ← unquote bound after
              match known.lookup letter with
              | some value => return (value :: text, others)
              | none => return (byte :: letter :: text, others)
      else do
        let (text, others) ← unquote bound rest
        return (byte :: text, others)

def untilSlash (inSet : Bool) : Nat → Bytes → Option (Bytes × Bytes)
  | 0, _ => none
  | _, [] => none
  | bound + 1, byte :: rest =>
      if byte = Ascii.newline then none
      else if byte = Ascii.slash ∧ !inSet then some ([], rest)
      else if byte = Ascii.backslash then
        match rest with
        | [] => none
        | letter :: after => do
            let (source, others) ← untilSlash inSet bound after
            if letter = Ascii.slash then return (letter :: source, others)
            else return (byte :: letter :: source, others)
      else
        let opens := byte == Ascii.openBracket && !inSet
        if opens then do
          let (front, after) := match rest with
            | Ascii.caret :: Ascii.closeBracket :: after =>
                ([Ascii.caret, Ascii.closeBracket], after)
            | Ascii.closeBracket :: after => ([Ascii.closeBracket], after)
            | rest => ([], rest)
          let (source, others) ← untilSlash true bound after
          return (byte :: front ++ source, others)
        else do
          let (source, others) ← untilSlash (inSet && byte != Ascii.closeBracket) bound rest
          return (byte :: source, others)

def numberLength (text : Bytes) : Nat :=
  let whole := text.takeWhile isDigit
  let rest := text.drop whole.length
  let (fraction, rest) := match rest with
    | Ascii.dot :: more =>
        let digits := more.takeWhile isDigit
        (1 + digits.length, more.drop digits.length)
    | rest => (0, rest)
  let exponent := match rest with
    | letter :: more =>
        if letter = 101 ∨ letter = 69 then
          let sign := match more with
            | Ascii.plus :: _ | Ascii.minus :: _ => 1
            | _ => 0
          let digits := (more.drop sign).takeWhile isDigit
          if digits = [] then 0 else 1 + sign + digits.length
        else 0
    | [] => 0
  whole.length + fraction + exponent

def beginsNumber (text : Bytes) : Bool :=
  match text with
  | Ascii.dot :: byte :: _ => isDigit byte
  | byte :: _ => isDigit byte
  | [] => false

/-- The next token and the text after it; `before` is the token before it.  The text begins with
neither a blank nor a comment. -/
def next (before : Token) (line : Nat) (text : Bytes) : Except Flaw (Placed × Bytes) :=
  let made := fun (token : Token) (length : Nat) =>
    .ok ({ token, line, shown := text.take length }, text.drop length)
  let runaway := fun (what : String) =>
    let front := (text.takeWhile (· != Ascii.newline)).take 10
    .error { line := some line, message := ascii what ++ front ++ ascii " ..." }
  match text with
  | [] => made .finish 0
  | byte :: rest =>
      if byte = Ascii.newline then made .newline 1
      else if byte = Ascii.doubleQuote then
        match unquote (rest.length + 1) rest with
        | some (value, others) =>
            .ok ({ token := .literal value, line, shown := text.take (text.length - others.length) },
              others)
        | none => runaway "runaway string constant "
      else if byte = Ascii.slash ∧ !before.endsOperand then
        match untilSlash false (rest.length + 1) rest with
        | some (source, others) =>
            .ok ({ token := .regex source, line, shown := text.take (text.length - others.length) },
              others)
        | none => runaway "runaway regular expression "
      else if beginsNumber text then
        let length := numberLength text
        made (.number (text.take length)) length
      else if isNameStart byte then
        let word := text.takeWhile isNameByte
        let after := text.drop word.length
        match keywords.find? (ascii · == word) with
        | some found => made (.keyword found) word.length
        | none =>
            if builtins.any (ascii · == word) then made (.builtin word) word.length
            else if after.head? = some Ascii.openParenthesis then made (.function word) word.length
            else made (.name word) word.length
      else
        match symbols.find? fun known => (ascii known).isPrefixOf text with
        | some found => made (.symbol found) found.length
        | none =>
            let message := ascii "unexpected character '" ++ byte :: ascii "'"
            .error { line := some line, message }

/-- Skip blanks, comments and ends of lines after a backslash.  The answer has the number of lines
that were skipped. -/
def skip : Nat → Nat → Bytes → Nat × Bytes
  | 0, lines, text => (lines, text)
  | _, lines, [] => (lines, [])
  | bound + 1, lines, byte :: rest =>
      if byte = Ascii.space ∨ byte = Ascii.tab ∨ byte = Ascii.carriageReturn then
        skip bound lines rest
      else if byte = Ascii.hash then
        (lines, (byte :: rest).dropWhile (· != Ascii.newline))
      else if byte = Ascii.backslash ∧ rest.head? = some Ascii.newline then
        skip bound (lines + 1) (rest.drop 1)
      else (lines, byte :: rest)

def readFrom : Nat → Token → Nat → Bytes → Except Flaw (List Placed)
  | 0, _, _, _ => .ok []
  | bound + 1, before, line, text => do
      let (skipped, text) := skip (text.length + 1) 0 text
      let line := line + skipped
      let (placed, rest) ← next before line text
      match placed.token with
      | .finish => return [placed]
      | .newline => return placed :: (← readFrom bound .newline (line + 1) rest)
      | token => return placed :: (← readFrom bound token line rest)

def read (text : Bytes) : Except Flaw (List Placed) :=
  readFrom (text.length + 2) .newline 1 text

end Token

end Rpn.Tool.Awk

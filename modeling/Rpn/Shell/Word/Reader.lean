import Rpn.Shell.Word

/-! Reading words.  How far a command substitution goes is known only to who can read commands, so
the readers here ask for it.  Part of the test environment. -/

namespace Rpn.Shell

inductive SyntaxFault where
  | unexpected (found : Bytes)
  | unfinished (missing : Bytes)
  | tooDeep
  deriving DecidableEq, Repr

/-- What readers of words depend on.  `extended` is the language with arrays, with `groups` patterns
between parentheses are parts of words, and `commandSource` divides a text after the closing
parenthesis of the command that it begins with. -/
structure Grammar where
  extended : Bool
  groups : Bool := false
  commandSource : Bytes → Except SyntaxFault (Bytes × Bytes)

/-- Where the pieces of a word stand.  A `quoted` operand is one between double quotes; `inner`
says that double quotes were opened inside it again. -/
inductive Surrounding where
  | bare
  | double
  | operand (quoted inner : Bool)
  | document
  | arithmetic (depth : Nat)
  | subscript
  | group (depth : Nat)
  | until (stops : Bytes) (quoted : Bool)

namespace Surrounding

def specials : Surrounding → Bytes
  | bare => ascii " \t\n;&|<>()'\"\\$`"
  | double => ascii "\"\\$`"
  | operand false _ => ascii "'\"\\$`\x7d"
  | operand true _ => ascii "\"\\$`\x7d"
  | document => ascii "\\$`"
  | arithmetic _ => ascii "()\\$`\""
  | subscript => ascii "'\"\\$`]"
  | group _ => ascii "'\"\\$`()"
  | .until stops false => stops ++ ascii "'\"\\$`"
  | .until stops true => stops ++ ascii "\"\\$`"

def isQuoted : Surrounding → Bool
  | bare | operand false _ | subscript | group _ | .until _ false => false
  | _ => true

def escapable : Surrounding → Bytes
  | operand true _ => ascii "$`\"\\\x7d"
  | document => ascii "$`\\"
  | .until _ true => ascii "$`\"\\/\x7d"
  | _ => ascii "$`\"\\"

def atEnd (place : Surrounding) (word : Word) : Except SyntaxFault (Word × Bytes) :=
  match place with
  | bare | document => .ok (word, [])
  | double => .error (.unfinished (ascii "\""))
  | arithmetic _ => .error (.unfinished (ascii "))"))
  | subscript => .error (.unfinished (ascii "]"))
  | group _ => .error (.unfinished (ascii ")"))
  | operand _ _ | .until _ _ => .error (.unfinished (ascii "\x7d"))

end Surrounding

namespace Word

/-! Parts of words that need no recursion. -/

/-- A text without the escaped line ends at its front, which join lines. -/
def joinLines : Nat → Bytes → Bytes
  | bound + 1, Ascii.backslash :: Ascii.newline :: rest => joinLines bound rest
  | _, input => input

def joined (input : Bytes) : Bytes :=
  joinLines input.length input

/-- The bytes at the front of a text that have a property, across joined lines, and the rest. -/
def takeJoined (property : UInt8 → Bool) : Nat → Bytes → Bytes × Bytes
  | 0, input => ([], input)
  | bound + 1, input =>
      match joined input with
      | byte :: rest =>
          if property byte then
            let (found, rest) := takeJoined property bound rest
            (byte :: found, rest)
          else ([], byte :: rest)
      | [] => ([], [])

/-- The text between backquotes, and what follows them.  A backslash keeps its meaning except
before three bytes, or four between double quotes. -/
def backquoted (quoted : Bool) : Bytes → Except SyntaxFault (Bytes × Bytes)
  | [] => .error (.unfinished (ascii "`"))
  | Ascii.backquote :: rest => .ok ([], rest)
  | Ascii.backslash :: byte :: rest => do
      let (source, rest) ← backquoted quoted rest
      if byte = Ascii.newline then return (source, rest)
      else if (ascii "$`\\").contains byte ∨ quoted ∧ byte = Ascii.doubleQuote then
        return (byte :: source, rest)
      else return (Ascii.backslash :: byte :: source, rest)
  | byte :: rest => do
      let (source, rest) ← backquoted quoted rest
      return (byte :: source, rest)

def hexDigit? (byte : UInt8) : Option Nat :=
  if isDigit byte then some (byte.toNat - 48)
  else if 97 ≤ byte && byte ≤ 102 then some (byte.toNat - 87)
  else if 65 ≤ byte && byte ≤ 70 then some (byte.toNat - 55)
  else none

def encodeCodePoint (code : Nat) : Bytes :=
  if code < 128 then [code.toUInt8]
  else if code < 2048 then [(192 + code / 64).toUInt8, (128 + code % 64).toUInt8]
  else if code < 65536 then
    [(224 + code / 4096).toUInt8, (128 + code / 64 % 64).toUInt8, (128 + code % 64).toUInt8]
  else
    [(240 + code / 262144).toUInt8, (128 + code / 4096 % 64).toUInt8,
      (128 + code / 64 % 64).toUInt8, (128 + code % 64).toUInt8]

def numberInBase (base : Nat) (digits : Bytes) : Nat :=
  digits.foldl (fun number byte => number * base + (hexDigit? byte).getD 0) 0

def isOctalDigit (byte : UInt8) : Bool :=
  48 ≤ byte && byte ≤ 55

def controlByte? (letter : UInt8) : Option UInt8 :=
  ((ascii "abeEfnrtv\\'\"?").zip [7, 8, 27, 27, 12, 10, 13, 9, 11, 92, 39, 34, 63]).lookup letter

/-- The text after a dollar sign and a single quote, with its escapes replaced. -/
def escapedText : Nat → Bytes → Except SyntaxFault (Bytes × Bytes)
  | 0, _ => .error .tooDeep
  | _, [] => .error (.unfinished (ascii "'"))
  | _, Ascii.singleQuote :: rest => .ok ([], rest)
  | bound + 1, Ascii.backslash :: letter :: rest =>
      let continueWith := fun (shown : Bytes) (rest : Bytes) => do
        let (text, rest) ← escapedText bound rest
        return (shown ++ text, rest)
      match controlByte? letter with
      | some byte => continueWith [byte] rest
      | none =>
          if isOctalDigit letter then
            let digits := ((letter :: rest).take 3).takeWhile isOctalDigit
            continueWith [(numberInBase 8 digits).toUInt8] ((letter :: rest).drop digits.length)
          else
            let hexadecimal := fun count => (rest.take count).takeWhile (hexDigit? · |>.isSome)
            match Char.ofNat letter.toNat with
            | 'x' =>
                let digits := hexadecimal 2
                if digits = [] then continueWith (ascii "\\x") rest
                else continueWith [(numberInBase 16 digits).toUInt8] (rest.drop digits.length)
            | 'u' =>
                let digits := hexadecimal 4
                continueWith (encodeCodePoint (numberInBase 16 digits)) (rest.drop digits.length)
            | 'U' =>
                let digits := hexadecimal 8
                continueWith (encodeCodePoint (numberInBase 16 digits)) (rest.drop digits.length)
            | 'c' =>
                match rest with
                | byte :: rest => continueWith [byte &&& 31] rest
                | [] => continueWith (ascii "\\c") []
            | _ => continueWith [Ascii.backslash, letter] rest
  | bound + 1, byte :: rest => do
      let (text, rest) ← escapedText bound rest
      return (byte :: text, rest)

def withoutEscapes (text : Bytes) : Bytes :=
  let quoted := text.flatMap fun byte =>
    if byte = Ascii.singleQuote then ascii "\\'" else [byte]
  match escapedText (quoted.length + 2) (quoted ++ [Ascii.singleQuote]) with
  | .ok (found, _) => found
  | .error _ => text

/-! Parameters. -/

abbrev PieceReader := Surrounding → Bytes → Except SyntaxFault (Word × Bytes)

def missingBrace : SyntaxFault :=
  .unfinished (ascii "\x7d")

def joinedOperator (input : Bytes) : Bytes :=
  match joined input with
  | first :: rest => if (ascii ":%#").contains first then first :: joined rest else first :: rest
  | [] => []

/-- The operation after the name of a braced parameter, and the surrounding of its operand if it
has one. -/
def readOperation (quoted : Bool) (input : Bytes) :
    Operation × Option Surrounding × Bytes :=
  let word := some (.operand quoted false)
  let pattern := some (.operand false false)
  match joinedOperator input with
  | Ascii.closeBrace :: rest => (.value, none, rest)
  | Ascii.colon :: Ascii.minus :: rest => (.default true, word, rest)
  | Ascii.colon :: Ascii.equals :: rest => (.assign true, word, rest)
  | Ascii.colon :: Ascii.plus :: rest => (.alternative true, word, rest)
  | Ascii.colon :: Ascii.question :: rest => (.demand true, word, rest)
  | Ascii.minus :: rest => (.default false, word, rest)
  | Ascii.equals :: rest => (.assign false, word, rest)
  | Ascii.plus :: rest => (.alternative false, word, rest)
  | Ascii.question :: rest => (.demand false, word, rest)
  | Ascii.percent :: Ascii.percent :: rest => (.trimBack true, pattern, rest)
  | Ascii.percent :: rest => (.trimBack false, pattern, rest)
  | Ascii.hash :: Ascii.hash :: rest => (.trimFront true, pattern, rest)
  | Ascii.hash :: rest => (.trimFront false, pattern, rest)
  | rest => (.unknown, word, rest)

def readExtendedOperation? (self : PieceReader) (quoted : Bool) (input : Bytes) :
    Option (Except SyntaxFault (Operation × List Word × Bytes)) :=
  let closing : Bytes := [Ascii.closeBrace]
  match input with
  | Ascii.colon :: rest =>
      if rest.head?.any ((ascii "-=+?").contains ·) then none
      else some do
        let (offset, rest) ← self (.until [Ascii.colon, Ascii.closeBrace] true) rest
        match rest with
        | Ascii.colon :: rest =>
            let (length, rest) ← self (.until closing true) rest
            return (.substring, [offset, length], rest.drop 1)
        | rest => return (.substring, [offset], rest.drop 1)
  | Ascii.slash :: rest => some do
      let (operation, rest) := match rest with
        | Ascii.slash :: rest => (Operation.replace true false false, rest)
        | Ascii.hash :: rest => (.replace false true false, rest)
        | Ascii.percent :: rest => (.replace false false true, rest)
        | rest => (.replace false false false, rest)
      let (pattern, rest) ← self (.until [Ascii.slash, Ascii.closeBrace] false) rest
      match rest with
      | Ascii.slash :: rest =>
          let (text, rest) ← self (.until closing quoted) rest
          return (operation, [pattern, text], rest.drop 1)
      | rest => return (operation, [pattern, []], rest.drop 1)
  | Ascii.caret :: rest => some (recase .upper Ascii.caret rest)
  | Ascii.comma :: rest => some (recase .lower Ascii.comma rest)
  | Ascii.tilde :: rest => some (recase .swapped Ascii.tilde rest)
  | Ascii.atSign :: letter :: rest =>
      match rest with
      | Ascii.closeBrace :: rest => some (.ok (.transform letter, [], rest))
      | _ => none
  | _ => none
where
  recase (casing : Casing) (mark : UInt8) (input : Bytes) :
      Except SyntaxFault (Operation × List Word × Bytes) := do
    let (all, input) := match input with
      | first :: rest => if first = mark then (true, rest) else (false, input)
      | [] => (false, [])
    let (pattern, rest) ← self (.operand false false) input
    return (.recase casing all, [pattern], rest)

def parameterName (input : Bytes) : Option (Bytes × Bytes) :=
  match joined input with
  | [] => none
  | first :: rest =>
      if isNameStart first then
        let (others, rest) := takeJoined isNameByte rest.length rest
        some (first :: others, rest)
      else if isDigit first then
        let (others, rest) := takeJoined isDigit rest.length rest
        some (first :: others, rest)
      else if isSpecialParameter first then some ([first], joined rest)
      else none

def readBracedRest (grammar : Grammar) (self : PieceReader) (quoted : Bool) (name : Bytes)
    (operation? : Option Operation) (input : Bytes) : Except SyntaxFault (Piece × Bytes) := do
  let (index, input) ← match grammar.extended, input with
    | true, Ascii.openBracket :: rest => do
        let (index, rest) ← self .subscript rest
        pure (index, rest)
    | _, _ => pure ([], input)
  match operation?, input with
  | some operation, Ascii.closeBrace :: rest =>
      return (.parameter quoted name index operation [], rest)
  | some .indirect, _ => operationOn [] [.parameter true name index .indirect []] input
  | some _, _ =>
      let (_, rest) ← self (.operand quoted false) input
      return (.parameter quoted name index .unknown [], rest)
  | none, _ => operationOn name index input
where
  operationOn (name : Bytes) (index : Word) (input : Bytes) :
      Except SyntaxFault (Piece × Bytes) := do
    let extended? :=
      if grammar.extended then readExtendedOperation? self quoted (joinedOperator input)
      else none
    match extended? with
    | some result =>
        let (operation, operands, rest) ← result
        return (.parameter quoted name index operation operands, rest)
    | none =>
        let (operation, place?, rest) := readOperation quoted input
        match place? with
        | none => return (.parameter quoted name index operation [], rest)
        | some place =>
            let (operand, rest) ← self place rest
            return (.parameter quoted name index operation [operand], rest)

def readBraced (grammar : Grammar) (self : PieceReader) (quoted : Bool) (input : Bytes) :
    Except SyntaxFault (Piece × Bytes) := do
  match joined input with
  | [] => .error missingBrace
  | Ascii.hash :: rest =>
      let rest := joined rest
      match rest with
      | [] => .error missingBrace
      | first :: others =>
          if isNameByte first ∨
              isSpecialParameter first ∧ others.head? = some Ascii.closeBrace then
            match parameterName rest with
            | some (name, rest) => readBracedRest grammar self quoted name (some .length) rest
            | none => .error missingBrace
          else if grammar.extended ∧ isSpecialParameter first ∧
              others.head? = some Ascii.openBracket then
            readBracedRest grammar self quoted [first] (some .length) others
          else readBracedRest grammar self quoted (ascii "#") none rest
  | Ascii.exclamation :: Ascii.hash :: Ascii.closeBrace :: rest =>
      return (.parameter quoted (ascii "#") [] (if grammar.extended then .indirect else .unknown) [],
        rest)
  | Ascii.exclamation :: rest =>
      match grammar.extended, parameterName rest with
      | true, some (name, after) =>
          if name.head?.any isNameByte then
            match after with
            | Ascii.asterisk :: Ascii.closeBrace :: after
            | Ascii.atSign :: Ascii.closeBrace :: after =>
                return (.parameter quoted name [] .namesWith [], after)
            | _ =>
                let (piece, rest) ← readBracedRest grammar self quoted name (some .indirect) after
                match piece with
                | .parameter quoted name [.text false mark] .indirect [] =>
                    if mark = ascii "@" ∨ mark = ascii "*" then
                      return (.parameter quoted name [.text false mark] .keys [], rest)
                    else return (piece, rest)
                | _ => return (piece, rest)
          else readBracedRest grammar self quoted (ascii "!") none rest
      | _, _ => readBracedRest grammar self quoted (ascii "!") none rest
  | input =>
      match parameterName input with
      | some (name, rest) => readBracedRest grammar self quoted name none rest
      | none =>
          let (_, rest) ← self (.operand quoted false) input
          return (.parameter quoted [] [] .unknown [], rest)

def readDollar (grammar : Grammar) (self : PieceReader) (quoted : Bool) (input : Bytes) :
    Except SyntaxFault (Piece × Bytes) := do
  let input := match joined input with
    | Ascii.openParenthesis :: rest => Ascii.openParenthesis :: joined rest
    | input => input
  match input with
  | Ascii.openParenthesis :: Ascii.openParenthesis :: rest =>
      match self (.arithmetic 0) rest with
      | .ok (expression, rest) => return (.arithmetic quoted expression, rest)
      | .error fault =>
          if grammar.extended then
            let (source, rest) ← grammar.commandSource (Ascii.openParenthesis :: rest)
            return (.command quoted source, rest)
          else .error fault
  | Ascii.openParenthesis :: rest =>
      let (source, rest) ← grammar.commandSource rest
      return (.command quoted source, rest)
  | Ascii.openBrace :: rest => readBraced grammar self quoted rest
  | first :: rest =>
      if isNameStart first then
        let (others, rest) := takeJoined isNameByte rest.length rest
        return (.parameter quoted (first :: others) [] .value [], rest)
      else if isDigit first || isSpecialParameter first then
        return (.parameter quoted [first] [] .value [], rest)
      else if grammar.extended && !quoted && first == Ascii.singleQuote then
        let (text, rest) ← escapedText (rest.length + 1) rest
        return (.text true text, rest)
      else if grammar.extended && !quoted && first == Ascii.doubleQuote then
        let (inner, rest) ← self .double rest
        return (.parameter true (ascii "") inner .value [], rest)
      else if grammar.extended && first == Ascii.openBracket then
        let (expression, rest) ← self .subscript rest
        return (.arithmetic quoted expression, rest)
      else return (.text quoted [Ascii.dollar], input)
  | [] => return (.text quoted [Ascii.dollar], [])

def awaitsGroup (word : Word) : Bool :=
  match word.getLast? with
  | some (.text false content) => content.getLast?.any ((ascii "?*+@!").contains ·)
  | _ => false

def addPiece (word : Word) : Piece → Word
  | .text quoted content => word.addText quoted content
  | piece => word ++ [piece]

/-- The pieces at the front of a text, after those that were read already. -/
def readPieces (grammar : Grammar) :
    Nat → Surrounding → Word → Bytes → Except SyntaxFault (Word × Bytes)
  | 0, _, _, _ => .error .tooDeep
  | bound + 1, place, word, input => do
      let plain := input.takeWhile (!place.specials.contains ·)
      let quoted := place.isQuoted
      let next := fun word rest => readPieces grammar bound place word rest
      match plain, input with
      | _ :: _, _ => next (word.addText quoted plain) (input.drop plain.length)
      | [], [] => place.atEnd word
      | [], byte :: rest =>
          match byte with
          | Ascii.singleQuote =>
              let content := rest.takeWhile (· != Ascii.singleQuote)
              match rest.drop content.length with
              | [] => .error (.unfinished (ascii "'"))
              | _ :: rest => next (word.addText true content) rest
          | Ascii.doubleQuote =>
              match place with
              | .double => return (word, rest)
              | .operand true inner =>
                  readPieces grammar bound (.operand true !inner) word rest
              | .arithmetic _ | .until _ true => next word rest
              | _ =>
                  let (inner, rest) ← readPieces grammar bound .double [] rest
                  let inner := if inner.isEmpty then [Piece.text true []] else inner
                  next (inner.foldl addPiece word) rest
          | Ascii.backslash =>
              match rest with
              | [] => next (word.addText true [Ascii.backslash]) []
              | escaped :: rest =>
                  if escaped = Ascii.newline then next word rest
                  else if quoted && !place.escapable.contains escaped then
                    next (word.addText true [Ascii.backslash, escaped]) rest
                  else next (word.addText true [escaped]) rest
          | Ascii.dollar =>
              let (piece, rest) ←
                readDollar grammar (fun place => readPieces grammar bound place []) quoted rest
              next (word.addPiece piece) rest
          | Ascii.backquote =>
              let (source, rest) ← backquoted quoted rest
              next (word.addPiece (.command quoted source)) rest
          | _ =>
              match place with
              | .operand _ false | .subscript => return (word, rest)
              | .operand quoted true => next (word.addText quoted [byte]) rest
              | .group depth =>
                  let word := word.addText false [byte]
                  if byte = Ascii.openParenthesis then
                    readPieces grammar bound (.group (depth + 1)) word rest
                  else if 0 < depth then readPieces grammar bound (.group (depth - 1)) word rest
                  else return (word, rest)
              | .arithmetic depth =>
                  if byte = Ascii.openParenthesis then
                    readPieces grammar bound (.arithmetic (depth + 1)) (word.addText true [byte])
                      rest
                  else if 0 < depth then
                    readPieces grammar bound (.arithmetic (depth - 1)) (word.addText true [byte])
                      rest
                  else
                    match rest with
                    | Ascii.closeParenthesis :: rest => return (word, rest)
                    | _ => .error (.unfinished (ascii "))"))
              | .bare =>
                  if byte = Ascii.openParenthesis ∧ grammar.groups ∧ awaitsGroup word then
                    let (word, rest) ←
                      readPieces grammar bound (.group 0) (word.addText false [byte]) rest
                    next word rest
                  else return (word, input)
              | _ => return (word, input)

def read (grammar : Grammar) (input : Bytes) : Except SyntaxFault (Word × Bytes) :=
  readPieces grammar (2 * input.length + 2) .bare [] input

def ofDocument (grammar : Grammar) (text : Bytes) : Except SyntaxFault Word := do
  let (word, _) ← readPieces grammar (2 * text.length + 2) .document [] text
  return word

end Word

end Rpn.Shell

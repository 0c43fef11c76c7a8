import Rpn.Text.Backtrack
import Rpn.Text.Regex.Reader

/-! Reading expressions that are matched by trying.  Only serves the test environment. -/

namespace Rpn.Text.Backtrack

structure Flags where
  folded : Bool := false
  multiline : Bool := false
  dotAll : Bool := false
  spaced : Bool := false

structure ReaderState where
  rest : Bytes
  groups : Nat := 0
  flags : Flags := {}

abbrev Reader := StateT ReaderState (Except String)

structure Item where
  expr : Expr
  repeatable : Bool := true

namespace Reader

def rest : Reader Bytes :=
  return (← get).rest

def setRest (rest : Bytes) : Reader Unit :=
  modify fun state => { state with rest }

def accept (text : String) : Reader Bool := do
  let rest ← rest
  if (ascii text).isPrefixOf rest then
    setRest (rest.drop text.length)
    return true
  else return false

def oneByte (byte : UInt8) : Reader Expr := do
  let set : ByteSet := { ranges := [(byte, byte)] }
  return .oneOf (if (← get).flags.folded then set.foldCase else set)

end Reader

/-! Sets. -/

def wordRanges : List (UInt8 × UInt8) :=
  [(48, 57), (65, 90), (95, 95), (97, 122)]

def wideBlankRanges : List (UInt8 × UInt8) :=
  [(9, 9), (32, 32), (160, 160)]

def lineEndRanges : List (UInt8 × UInt8) :=
  [(10, 13), (133, 133)]

def outside (ranges : List (UInt8 × UInt8)) : List (UInt8 × UInt8) :=
  (ByteSet.members { ranges, negated := true }).map fun byte => (byte, byte)

def namedRanges? (letter : UInt8) : Option (List (UInt8 × UInt8)) :=
  match Char.ofNat letter.toNat with
  | 'd' => some [(48, 57)]
  | 'D' => some (outside [(48, 57)])
  | 'w' => some wordRanges
  | 'W' => some (outside wordRanges)
  | 's' => some [(9, 13), (32, 32)]
  | 'S' => some (outside [(9, 13), (32, 32)])
  | 'h' => some wideBlankRanges
  | 'H' => some (outside wideBlankRanges)
  | 'v' => some lineEndRanges
  | 'V' => some (outside lineEndRanges)
  | _ => none

def isHexDigit (byte : UInt8) : Bool :=
  isDigit byte || (65 ≤ byte && byte ≤ 70) || (97 ≤ byte && byte ≤ 102)

def isOctalDigit (byte : UInt8) : Bool :=
  Ascii.zero ≤ byte && byte ≤ 55

def digitsValue (base : Nat) (digits : Bytes) : Nat :=
  digits.foldl (fun sum digit =>
    let value := if isDigit digit then digit - 48 else toLower digit - 87
    sum * base + value.toNat) 0

def namedByte? (input : Bytes) : Except String (Option (UInt8 × Bytes)) :=
  match input with
  | [] => .error "\\ at end of pattern"
  | letter :: rest =>
      match Char.ofNat letter.toNat with
      | 'a' => .ok (some (7, rest))
      | 'e' => .ok (some (27, rest))
      | 'f' => .ok (some (12, rest))
      | 'n' => .ok (some (10, rest))
      | 'r' => .ok (some (13, rest))
      | 't' => .ok (some (9, rest))
      | '0' =>
          let digits := (rest.takeWhile isOctalDigit).take 2
          .ok (some ((digitsValue 8 digits).toUInt8, rest.drop digits.length))
      | 'x' =>
          let digits := (rest.takeWhile isHexDigit).take 2
          .ok (some ((digitsValue 16 digits).toUInt8, rest.drop digits.length))
      | _ => if isLetter letter || isDigit letter then .ok none else .ok (some (letter, rest))

def readClass? (input : Bytes) : Except String (Option (List (UInt8 × UInt8) × Bytes)) :=
  match input with
  | Ascii.colon :: text =>
      match Regex.untilMark Ascii.colon text with
      | none => .ok none
      | some (name, rest) =>
          let (negated, name) := match name with
            | Ascii.caret :: name => (true, name)
            | name => (false, name)
          if !name.all isLetter then .ok none
          else
            let ranges := if name = ascii "word" then some wordRanges
              else if name = ascii "ascii" then some [(0, 127)]
              else ByteSet.classRanges? name
            match ranges with
            | none => .error "unknown POSIX class name"
            | some ranges => .ok (some (if negated then outside ranges else ranges, rest))
  | _ => .ok none

def readMember (input : Bytes) :
    Except String ((UInt8 ⊕ List (UInt8 × UInt8)) × Bytes) := do
  match input with
  | Ascii.openBracket :: rest =>
      match ← readClass? rest with
      | some (ranges, rest) => return (.inr ranges, rest)
      | none => return (.inl Ascii.openBracket, rest)
  | Ascii.backslash :: rest =>
      match ← namedByte? rest with
      | some (byte, rest) => return (.inl byte, rest)
      | none =>
          let letter := rest.headD 0
          match namedRanges? letter with
          | some ranges => return (.inr ranges, rest.tail)
          | none =>
              if letter = 98 then return (.inl 8, rest.tail)
              else if isDigit letter then
                let digits := (rest.takeWhile isOctalDigit).take 3
                if digits = [] then return (.inl letter, rest.tail)
                else return (.inl (digitsValue 8 digits).toUInt8, rest.drop digits.length)
              else .error "unrecognized character follows \\"
  | byte :: rest => return (.inl byte, rest)
  | [] => .error "missing terminating ] for character class"

def readMembers : Nat → Bool → Bytes → Except String (List (UInt8 × UInt8) × Bytes)
  | 0, _, _ => .error "missing terminating ] for character class"
  | bound + 1, first, input => do
      match input with
      | Ascii.closeBracket :: rest =>
          if first then afterByte bound Ascii.closeBracket rest else return ([], rest)
      | _ =>
          match ← readMember input with
          | (.inr ranges, rest) =>
              let (others, rest) ← readMembers bound false rest
              return (ranges ++ others, rest)
          | (.inl byte, rest) => afterByte bound byte rest
where
  /-- What follows a byte: the end of a range, or more members. -/
  afterByte (bound : Nat) (low : UInt8) (input : Bytes) :
      Except String (List (UInt8 × UInt8) × Bytes) := do
    match input with
    | Ascii.minus :: next :: rest =>
        if next = Ascii.closeBracket then
          let (others, rest) ← readMembers bound false input
          return ((low, low) :: others, rest)
        else
          match ← readMember (next :: rest) with
          | (.inl high, rest) =>
              if high < low then .error "range out of order in character class"
              else
                let (others, rest) ← readMembers bound false rest
                return ((low, high) :: others, rest)
          | (.inr _, _) => .error "invalid range in character class"
    | input =>
        let (others, rest) ← readMembers bound false input
        return ((low, low) :: others, rest)

def readSet : Reader Expr := do
  let input ← Reader.rest
  match ← (readClass? input : Except String _) with
  | some _ => throw "POSIX named classes are supported only within a class"
  | none =>
      let (negated, input) := match input with
        | Ascii.caret :: rest => (true, rest)
        | input => (false, input)
      let (ranges, rest) ← readMembers (input.length + 1) true input
      Reader.setRest rest
      let set : ByteSet := { ranges }
      let set := if (← get).flags.folded then set.foldCase else set
      return .oneOf { set with negated }

/-! Counts. -/

def readCount? (input : Bytes) : Option (Nat × Option Nat × Bytes) := do
  let low := input.takeWhile isDigit
  if low = [] then none
  else
    let least := Bytes.valueOf low
    match input.drop low.length with
    | Ascii.closeBrace :: rest => some (least, some least, rest)
    | Ascii.comma :: rest =>
        let high := rest.takeWhile isDigit
        match rest.drop high.length with
        | Ascii.closeBrace :: rest =>
            some (least, if high = [] then none else some (Bytes.valueOf high), rest)
        | _ => none
    | _ => none

def readRepeat? (input : Bytes) : Option (Nat × Option Nat × Bytes) :=
  match input with
  | Ascii.asterisk :: rest => some (0, none, rest)
  | Ascii.plus :: rest => some (1, none, rest)
  | Ascii.question :: rest => some (0, some 1, rest)
  | Ascii.openBrace :: rest => readCount? rest
  | _ => none

def skipSpaces : Nat → Reader Unit
  | 0 => return ()
  | bound + 1 => do
      match ← Reader.rest with
      | byte :: rest =>
          if (← get).flags.spaced ∧ isSpace byte then
            Reader.setRest rest
            skipSpaces bound
          else if (← get).flags.spaced ∧ byte = Ascii.hash then
            Reader.setRest (rest.dropWhile (· != Ascii.newline)).tail
            skipSpaces bound
          else return ()
      | [] => return ()

def readRepeats (item : Item) : Reader Expr := do
  let input ← Reader.rest
  skipSpaces input.length
  match readRepeat? (← Reader.rest) with
  | none => return item.expr
  | some (least, most, rest) =>
      if !item.repeatable then throw "quantifier does not follow a repeatable item"
      if 65535 < least ∨ most.any (65535 < ·) then throw "number too big in \x7b\x7d quantifier"
      if most.any (· < least) then throw "numbers out of order in \x7b\x7d quantifier"
      Reader.setRest rest
      if ← Reader.accept "+" then return .atomic (.repeated item.expr least most false)
      else if ← Reader.accept "?" then return .repeated item.expr least most true
      else return .repeated item.expr least most false

/-! Parts. -/

def readEscape : Reader Item := do
  let input ← Reader.rest
  match ← (namedByte? input : Except String _) with
  | some (byte, rest) =>
      Reader.setRest rest
      return { expr := ← Reader.oneByte byte }
  | none =>
      let letter := input.headD 0
      Reader.setRest input.tail
      let fixed := fun (anchor : Anchor) =>
        (pure { expr := .anchor anchor, repeatable := false } : Reader Item)
      let folded := (← get).flags.folded
      match namedRanges? letter with
      | some ranges => return { expr := .oneOf { ranges } }
      | none =>
          match Char.ofNat letter.toNat with
          | 'A' => fixed .textStart
          | 'z' => fixed .textEnd
          | 'Z' => fixed .lastLineEnd
          | 'b' => fixed .wordBoundary
          | 'B' => fixed .noWordBoundary
          | 'K' => return { expr := .keepFrom, repeatable := false }
          | 'N' => return { expr := .oneOf { ranges := [(10, 10)], negated := true } }
          | _ =>
              if !isDigit letter then throw "unrecognized character follows \\"
              let digits := input.takeWhile isDigit
              let number := Bytes.valueOf digits
              if number < 10 ∨ number ≤ (← get).groups then
                Reader.setRest (input.drop digits.length)
                return { expr := .same number folded }
              else
                let digits := (input.takeWhile isOctalDigit).take 3
                if digits = [] then return { expr := ← Reader.oneByte letter }
                Reader.setRest (input.drop digits.length)
                return { expr := ← Reader.oneByte (digitsValue 8 digits).toUInt8 }

/-! Groups. -/

def readInside (inner : Reader Expr) : Reader Expr := do
  let flags := (← get).flags
  let expr ← inner
  if !(← Reader.accept ")") then throw "missing closing parenthesis"
  modify fun state => { state with flags }
  return expr

def readKeptGroup (inner : Reader Expr) : Reader Expr := do
  modify fun state => { state with groups := state.groups + 1 }
  let number := (← get).groups
  return .group number (← readInside inner)

def readBehind (inner : Reader Expr) (negated : Bool) : Reader Expr := do
  let expr ← readInside inner
  match expr.lengths? with
  | some lengths => return .look (some lengths) negated expr
  | none => throw "lookbehind assertion is not fixed length"

/-- Options after `(?`: letters, and after a minus those that are taken away. -/
def changeFlags (flags : Flags) : Bool → Bytes → Option Flags
  | _, [] => some flags
  | on, letter :: rest =>
      match Char.ofNat letter.toNat with
      | 'i' => changeFlags { flags with folded := on } on rest
      | 'm' => changeFlags { flags with multiline := on } on rest
      | 's' => changeFlags { flags with dotAll := on } on rest
      | 'x' => changeFlags { flags with spaced := on } on rest
      | '-' => changeFlags flags false rest
      | _ => none

def readGroup (inner : Reader Expr) : Reader Item := do
  if !(← Reader.accept "?") then return { expr := ← readKeptGroup inner }
  else if ← Reader.accept ":" then return { expr := ← readInside inner }
  else if ← Reader.accept ">" then return { expr := .atomic (← readInside inner) }
  else if ← Reader.accept "=" then return { expr := .look none false (← readInside inner) }
  else if ← Reader.accept "!" then return { expr := .look none true (← readInside inner) }
  else if ← Reader.accept "<=" then return { expr := ← readBehind inner false }
  else if ← Reader.accept "<!" then return { expr := ← readBehind inner true }
  else
    let input ← Reader.rest
    let letters := input.takeWhile fun byte =>
      byte != Ascii.colon && byte != Ascii.closeParenthesis
    match changeFlags (← get).flags true letters, input.drop letters.length with
    | some flags, Ascii.closeParenthesis :: rest =>
        modify fun state => { state with flags, rest }
        return { expr := .empty, repeatable := false }
    | some flags, Ascii.colon :: rest =>
        let outer := (← get).flags
        modify fun state => { state with flags, rest }
        let expr ← readInside inner
        modify fun state => { state with flags := outer }
        return { expr }
    | some _, _ => throw "missing closing parenthesis"
    | none, _ => throw "unrecognized character after (? or (?-"

def readItem (inner : Reader Expr) : Reader Item := do
  let input ← Reader.rest
  let flags := (← get).flags
  Reader.setRest input.tail
  match input with
  | Ascii.backslash :: _ => readEscape
  | Ascii.openBracket :: _ => return { expr := ← readSet }
  | Ascii.openParenthesis :: _ => readGroup inner
  | Ascii.dot :: _ =>
      if flags.dotAll then return { expr := .oneOf { ranges := [(0, 255)] } }
      else return { expr := .oneOf { ranges := [(10, 10)], negated := true } }
  | Ascii.caret :: _ =>
      return { expr := .anchor (if flags.multiline then .lineStart else .textStart)
               repeatable := false }
  | Ascii.dollar :: _ =>
      return { expr := .anchor (if flags.multiline then .lineEnd else .textEnd)
               repeatable := false }
  | byte :: _ =>
      if (readRepeat? input).isSome then throw "quantifier does not follow a repeatable item"
      return { expr := ← Reader.oneByte byte }
  | [] => return { expr := .empty }

def readSequence (inner : Reader Expr) : Nat → Reader Expr
  | 0 => return .empty
  | bound + 1 => do
      let input ← Reader.rest
      skipSpaces input.length
      match ← Reader.rest with
      | [] | Ascii.bar :: _ | Ascii.closeParenthesis :: _ => return .empty
      | _ =>
          let expr ← readRepeats (← readItem inner)
          return .sequence expr (← readSequence inner bound)

/-- Parts of which one has to match.  The first number bounds how deep groups are, and the second
how many parts there are. -/
def readEither (depth : Nat) (inner : Reader Expr) : Nat → Reader Expr
  | 0 => return .empty
  | bound + 1 => do
      let first ← readSequence inner depth
      if ← Reader.accept "|" then return .either first (← readEither depth inner bound)
      else return first

def readExpr (length : Nat) : Nat → Reader Expr
  | 0 => throw "parentheses are too deeply nested"
  | depth + 1 => readEither length (readExpr length depth) (length + 1)

/-- A text without the marks between which bytes have no meaning; such bytes get a backslash. -/
def unquote : Nat → Bool → Bytes → Bytes
  | 0, _, _ => []
  | _, _, [] => []
  | bound + 1, quoted, byte :: rest =>
      if byte = Ascii.backslash ∧ rest.head? = some 69 then unquote bound false rest.tail
      else if quoted then
        (if isLetter byte || isDigit byte || 128 ≤ byte then [byte] else [Ascii.backslash, byte]) ++
          unquote bound true rest
      else if byte = Ascii.backslash then
        match rest with
        | next :: rest =>
            if next = 81 then unquote bound true rest
            else byte :: next :: unquote bound false rest
        | [] => [byte]
      else byte :: unquote bound false rest

def read (flags : Flags) (text : Bytes) : Except String Expr := do
  let text := unquote (text.length + 1) false text
  let (whole, state) ← (readExpr (text.length + 1) (text.length + 1)).run
    { rest := text, flags }
  if state.rest ≠ [] then throw "unmatched closing parenthesis"
  if whole.references.any (state.groups < ·) then throw "reference to non-existent subpattern"
  return whole

end Rpn.Text.Backtrack

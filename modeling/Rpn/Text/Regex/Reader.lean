import Rpn.Text.Regex

/-! Reading regular expressions in their two dialects.  Only serves the test environment. -/

namespace Rpn.Text.Regex

inductive Fault where
  | unmatchedBracket
  | unmatchedParenthesis
  | unmatchedClosing
  | unmatchedBrace
  | invalidBraces
  | invalidRange
  | invalidClass
  | invalidBackReference
  | trailingBackslash
  | nothingToRepeat
  | nothing
  deriving DecidableEq, Repr

def Fault.message : Fault → Bytes
  | unmatchedBracket => ascii "Unmatched [, [^, [:, [., or [="
  | unmatchedParenthesis => ascii "Unmatched ( or \\("
  | unmatchedClosing => ascii "Unmatched ) or \\)"
  | unmatchedBrace => ascii "Unmatched \\\x7b"
  | invalidBraces => ascii "Invalid content of \\\x7b\\\x7d"
  | invalidRange => ascii "Invalid range end"
  | invalidClass => ascii "Invalid character class name"
  | invalidBackReference => ascii "Invalid back reference"
  | trailingBackslash => ascii "Trailing backslash"
  | nothingToRepeat => ascii "Invalid preceding regular expression"
  | nothing => ascii "Invalid regular expression"

/-- A way to write expressions.  In the `extended` one the operators stand without backslashes.
With `escapes` a backslash has its meaning between brackets too, with `controls` it names control
bytes, and with `shorthands` it names sets and places.  `folded` takes capital and small letters
as the same.  A `lenient` reader takes an operator as itself where it has nothing to work on. -/
structure Dialect where
  extended : Bool := false
  escapes : Bool := false
  controls : Bool := false
  folded : Bool := false
  shorthands : Bool := true
  lenient : Bool := false

structure ReaderState where
  rest : Bytes
  groups : Nat := 0
  closed : List Nat := []
  depth : Nat := 0

abbrev RegexReader := StateT ReaderState (Except Fault)

def wordSet : ByteSet :=
  { ranges := [(48, 57), (65, 90), (95, 95), (97, 122)] }

def spaceSet : ByteSet :=
  { ranges := [(9, 13), (32, 32)] }

def negate (set : ByteSet) : ByteSet :=
  { set with negated := !set.negated }

def anySet : ByteSet :=
  { ranges := [(0, 255)] }

def oneByte (byte : UInt8) : ByteSet :=
  { ranges := [(byte, byte)] }

def ofSet (form : Dialect) (set : ByteSet) : Regex :=
  .oneOf (if form.folded then set.foldCase else set)

/-! Sets between brackets. -/

def untilMark (mark : UInt8) : Bytes → Option (Bytes × Bytes)
  | [] => none
  | [_] => none
  | first :: second :: rest =>
      if first = mark ∧ second = Ascii.closeBracket then some ([], rest)
      else do
        let (text, rest) ← untilMark mark (second :: rest)
        return (first :: text, rest)

/-- How many bytes a set between brackets takes after its opening bracket. -/
def setLength : Nat → Bool → Bytes → Nat
  | 0, _, _ => 0
  | _, _, [] => 0
  | bound + 1, _, Ascii.openBracket :: mark :: rest =>
      if mark = Ascii.colon ∨ mark = Ascii.dot ∨ mark = Ascii.equals then
        match untilMark mark rest with
        | some (text, rest) => text.length + 4 + setLength bound false rest
        | none => 1 + setLength bound false (mark :: rest)
      else 1 + setLength bound false (mark :: rest)
  | bound + 1, first, byte :: rest =>
      if byte = Ascii.closeBracket ∧ !first then 1
      else 1 + setLength bound (first && byte == Ascii.caret) rest

def readMember (form : Dialect) (input : Bytes) : Except Fault (UInt8 × Bytes) :=
  match input with
  | [] => .error .unmatchedBracket
  | Ascii.openBracket :: mark :: rest =>
      if mark = Ascii.dot ∨ mark = Ascii.equals then
        match untilMark mark rest with
        | some ([byte], rest) => .ok (byte, rest)
        | some _ => .error .invalidClass
        | none => .error .unmatchedBracket
      else .ok (Ascii.openBracket, mark :: rest)
  | Ascii.backslash :: escaped :: rest =>
      if form.escapes then
        match (ascii "abfnrtv").zip ([7, 8, 12, 10, 13, 9, 11] : Bytes) |>.lookup escaped with
        | some byte => .ok (byte, rest)
        | none => .ok (escaped, rest)
      else if form.controls ∧ escaped = 110 then .ok (Ascii.newline, rest)
      else if form.controls ∧ escaped = 116 then .ok (Ascii.tab, rest)
      else .ok (Ascii.backslash, escaped :: rest)
  | byte :: rest => .ok (byte, rest)

/-- The members of a set up to the closing bracket; one that comes first is a member. -/
def readMembers (form : Dialect) :
    Nat → Bool → Bytes → Except Fault (List (UInt8 × UInt8) × Bytes)
  | 0, _, _ => .error .unmatchedBracket
  | bound + 1, first, input => do
      match input with
      | [] => .error .unmatchedBracket
      | Ascii.closeBracket :: rest =>
          if first then afterMember bound Ascii.closeBracket rest else return ([], rest)
      | Ascii.openBracket :: Ascii.colon :: rest =>
          match untilMark Ascii.colon rest with
          | none => .error .unmatchedBracket
          | some (name, rest) =>
              match ByteSet.classRanges? name with
              | none => .error .invalidClass
              | some ranges =>
                  let (others, rest) ← readMembers form bound false rest
                  return (ranges ++ others, rest)
      | input =>
          let (byte, rest) ← readMember form input
          afterMember bound byte rest
where
  /-- What follows a member: a range, or more members. -/
  afterMember (bound : Nat) (low : UInt8) (input : Bytes) :
      Except Fault (List (UInt8 × UInt8) × Bytes) := do
    match input with
    | Ascii.minus :: next :: rest =>
        if next = Ascii.closeBracket then
          let (others, rest) ← readMembers form bound false input
          return ((low, low) :: others, rest)
        else
          let (high, rest) ← readMember form (next :: rest)
          if high < low then .error .invalidRange
          else
            let (others, rest) ← readMembers form bound false rest
            return ((low, high) :: others, rest)
    | input =>
        let (others, rest) ← readMembers form bound false input
        return ((low, low) :: others, rest)

def readSet (form : Dialect) (input : Bytes) : Except Fault (ByteSet × Bytes) := do
  let (negated, input) := match input with
    | Ascii.caret :: rest => (true, rest)
    | input => (false, input)
  if input = [] then throw .nothing
  let (ranges, rest) ← readMembers form (input.length + 1) true input
  return ({ ranges, negated }, rest)

/-! Counts. -/

/-- A count between braces: the least and perhaps the greatest number, and the rest after the
closing brace.  There is none if the text has not that form. -/
def readCount? (form : Dialect) (input : Bytes) : Option (Nat × Option Nat × Bytes) := do
  let low := input.takeWhile isDigit
  let input := input.drop low.length
  let (most, input) ← match input with
    | Ascii.comma :: rest =>
        let high := rest.takeWhile isDigit
        some (if high = [] then none else some (Bytes.valueOf high), rest.drop high.length)
    | input => if low = [] then none else some (some (Bytes.valueOf low), input)
  match form.extended, input with
  | true, Ascii.closeBrace :: rest => some (Bytes.valueOf low, most, rest)
  | false, Ascii.backslash :: Ascii.closeBrace :: rest => some (Bytes.valueOf low, most, rest)
  | _, _ => none

/-! Expressions. -/

def readRepeat (form : Dialect) (input : Bytes) :
    Except Fault (Option (Nat × Option Nat × Bytes)) :=
  match input with
  | Ascii.asterisk :: rest => .ok (some (0, none, rest))
  | Ascii.plus :: rest => .ok (if form.extended then some (1, none, rest) else none)
  | Ascii.question :: rest => .ok (if form.extended then some (0, some 1, rest) else none)
  | Ascii.openBrace :: rest =>
      if form.extended then counted rest form.lenient else .ok none
  | Ascii.backslash :: mark :: rest =>
      if form.extended then .ok none
      else if mark = Ascii.plus then .ok (some (1, none, rest))
      else if mark = Ascii.question then .ok (some (0, some 1, rest))
      else if mark = Ascii.openBrace then counted rest false
      else .ok none
  | _ => .ok none
where
  counted (rest : Bytes) (plain : Bool) :
      Except Fault (Option (Nat × Option Nat × Bytes)) :=
    match readCount? form rest with
    | some (least, most, rest) =>
        if most.any (· < least) then .error .invalidBraces else .ok (some (least, most, rest))
    | none =>
        if plain then .ok none
        else if (rest.dropWhile fun byte => isDigit byte || byte == Ascii.comma) = [] then
          .error .unmatchedBrace
        else .error .invalidBraces

def beginsStar (input : Bytes) : Bool :=
  match input with
  | Ascii.asterisk :: _ => true
  | Ascii.backslash :: Ascii.openBrace :: _ => true
  | _ => false

/-- All repetitions after an atom.  In the strict plain dialect a star or a count may not follow
another repetition. -/
def readRepeats (form : Dialect) (atom : Regex) : Nat → RegexReader Regex
  | 0 => return atom
  | bound + 1 => do
      let state ← get
      match ← readRepeat form state.rest with
      | none => return atom
      | some (least, most, rest) =>
          if !form.extended && !form.lenient && beginsStar rest then throw .nothingToRepeat
          set { state with rest }
          readRepeats form (.repeated atom least most) bound

def endsBranch (form : Dialect) (depth : Nat) (input : Bytes) : Bool :=
  match input with
  | [] => true
  | Ascii.bar :: _ => form.extended
  | Ascii.closeParenthesis :: _ => form.extended && (0 < depth || !form.lenient)
  | Ascii.backslash :: mark :: _ =>
      !form.extended && (mark == Ascii.bar || mark == Ascii.closeParenthesis)
  | _ => false

def shorthand? (form : Dialect) (letter : UInt8) : Option Regex :=
  if !form.shorthands then none
  else
    match Char.ofNat letter.toNat with
    | 'w' => some (.oneOf wordSet)
    | 'W' => some (.oneOf (negate wordSet))
    | 's' => some (.oneOf spaceSet)
    | 'S' => some (.oneOf (negate spaceSet))
    | 'b' => some (.check .wordBoundary)
    | 'B' => some (.check .noWordBoundary)
    | '<' => some (.check .wordStart)
    | '>' => some (.check .wordEnd)
    | _ =>
        if letter = Ascii.backquote then some (.check .textStart)
        else if letter = Ascii.singleQuote then some (.check .textEnd)
        else none

def control? (form : Dialect) (letter : UInt8) : Option UInt8 :=
  if form.controls then
    (ascii "afnrtv").zip ([7, 12, 10, 13, 9, 11] : Bytes) |>.lookup letter
  else none

def readGroup (form : Dialect) (inner : RegexReader Regex) : RegexReader Regex := do
  let number := (← get).groups + 1
  modify fun state => { state with groups := number, depth := state.depth + 1 }
  let body ← inner
  let state ← get
  let rest? := match form.extended, state.rest with
    | true, Ascii.closeParenthesis :: rest => some rest
    | false, Ascii.backslash :: Ascii.closeParenthesis :: rest => some rest
    | _, _ => none
  match rest? with
  | none => throw .unmatchedParenthesis
  | some rest =>
      set { state with rest, depth := state.depth - 1, closed := number :: state.closed }
      return .group number body

/-- One atom.  `first` says that it begins a branch. -/
def readAtom (form : Dialect) (inner : RegexReader Regex) (first : Bool) :
    RegexReader Regex := do
  let state ← get
  let take := fun (regex : Regex) (rest : Bytes) => do
    set { state with rest }
    return regex
  let literal := fun (byte : UInt8) (rest : Bytes) => take (ofSet form (oneByte byte)) rest
  match state.rest with
  | [] => return .empty
  | Ascii.dot :: rest => take (.oneOf anySet) rest
  | Ascii.openBracket :: rest =>
      let (found, rest) ← readSet form rest
      take (ofSet form found) rest
  | Ascii.caret :: rest =>
      if form.extended || first then take (.check .lineStart) rest else literal Ascii.caret rest
  | Ascii.dollar :: rest =>
      if form.extended || endsBranch form state.depth rest then take (.check .lineEnd) rest
      else literal Ascii.dollar rest
  | Ascii.openParenthesis :: rest =>
      if form.extended then
        set { state with rest }
        readGroup form inner
      else literal Ascii.openParenthesis rest
  | Ascii.backslash :: [] => throw .trailingBackslash
  | Ascii.backslash :: letter :: rest =>
      if !form.extended && letter == Ascii.openParenthesis then
        set { state with rest }
        readGroup form inner
      else if !form.extended && letter == Ascii.openBrace then
        if first then literal Ascii.openBrace rest else throw .nothingToRepeat
      else if Ascii.zero < letter && letter ≤ Ascii.nine && form.shorthands then
        let number := Bytes.digitValue letter
        if state.closed.contains number then take (.same number) rest
        else throw .invalidBackReference
      else
        match shorthand? form letter, control? form letter with
        | some regex, _ => take regex rest
        | none, some byte => take (ofSet form (oneByte byte)) rest
        | none, none => literal letter rest
  | byte :: rest => literal byte rest

def isRepeatMark (byte : UInt8) : Bool :=
  byte == Ascii.asterisk || byte == Ascii.plus || byte == Ascii.question

/-- Whether an expression is only an anchor at the beginning, after which a star is itself in the
plain dialect. -/
def isStartAnchor : Regex → Bool
  | .check .lineStart => true
  | _ => false

def readBranch (form : Dialect) (inner : RegexReader Regex) :
    Nat → Bool → RegexReader Regex
  | 0, _ => return .empty
  | bound + 1, first => do
      let state ← get
      if endsBranch form state.depth state.rest then return .empty
      else
        let atom ←
          match first, state.rest with
          | true, mark :: rest =>
              if mark = Ascii.asterisk ∧ !form.extended then
                set { state with rest }
                pure (ofSet form (oneByte Ascii.asterisk))
              else if form.extended ∧ isRepeatMark mark then
                if !form.lenient then throw .nothingToRepeat
                set { state with rest }
                pure .empty
              else readAtom form inner first
          | _, _ => readAtom form inner first
        let starFollows := (← get).rest.head? == some Ascii.asterisk
        if !form.extended && isStartAnchor atom && starFollows then
          let state ← get
          set { state with rest := state.rest.drop 1 }
          let star ← readRepeats form (ofSet form (oneByte Ascii.asterisk)) bound
          return .sequence atom (.sequence star (← readBranch form inner bound false))
        else
          let atom ← readRepeats form atom bound
          match ← readBranch form inner bound false with
          | .empty => return atom
          | rest => return .sequence atom rest

def readAlternatives (form : Dialect) : Nat → RegexReader Regex
  | 0 => throw .unmatchedParenthesis
  | depth + 1 => do
      let inner := readAlternatives form depth
      alternatives inner ((← get).rest.length + 1)
where
  alternatives (inner : RegexReader Regex) : Nat → RegexReader Regex
    | 0 => return .empty
    | bound + 1 => do
        let branch ← readBranch form inner ((← get).rest.length + 1) true
        let state ← get
        let rest? := match form.extended, state.rest with
          | true, Ascii.bar :: rest => some rest
          | false, Ascii.backslash :: Ascii.bar :: rest => some rest
          | _, _ => none
        match rest? with
        | some rest =>
            set { state with rest }
            return .alternative branch (← alternatives inner bound)
        | none => return branch

def read (form : Dialect) (text : Bytes) : Except Fault (Regex × Nat) := do
  let (regex, state) ← (readAlternatives form (text.length + 1)).run { rest := text }
  match state.rest with
  | [] => return (regex, state.groups)
  | _ => .error .unmatchedClosing

end Rpn.Text.Regex

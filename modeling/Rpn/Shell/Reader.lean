import Rpn.Shell.Command
import Rpn.Shell.Lexeme

/-! Reading commands from text, one complete line at a time.  Part of the test environment. -/

namespace Rpn.Shell

structure Pending where
  number : Nat
  delimiter : Bytes
  quoted : Bool
  indented : Bool

/-- A text that is being read.  `ahead` is a lexeme that was looked at and not taken; `documents`
are the here-documents found so far, by number.  An alias in `expanding` is not replaced again
before the rest is as short as it says.  Where the rest is as long as one of `inviting`, the text of
an alias ended with a blank; the lexeme after it is `invited` to be an alias. -/
structure Source where
  rest : Bytes
  line : Nat := 1
  ahead : Option Lexeme := none
  pending : List Pending := []
  documents : List (Nat × Word) := []
  fresh : Nat := 0
  extended : Bool := false
  groups : Bool := false
  aliases : List (Bytes × Bytes) := []
  expanding : List (Bytes × Nat) := []
  inviting : List Nat := []
  invited : Bool := false

abbrev Reader := StateT Source (Except SyntaxFault)

structure Inner where
  list : Reader Command
  command : Reader Command

namespace Reader

def many {α : Type} (reader : Reader (Option α)) : Nat → Reader (List α)
  | 0 => throw .tooDeep
  | bound + 1 => do
      match ← reader with
      | none => return []
      | some value => return value :: (← many reader bound)

/-- A bound for what can be read from here on. -/
def bound : Reader Nat :=
  return (← get).rest.length + 3

def commandSource (self : Inner) (outer : Source) (input : Bytes) :
    Except SyntaxFault (Bytes × Bytes) := do
  let ((), source) ← (closing self).run
    { rest := input, extended := outer.extended, groups := outer.groups, aliases := outer.aliases }
  return (input.take (input.length - source.rest.length - 1), source.rest)
where
  closing (self : Inner) : Reader Unit := do
    let _ ← self.list
    match (← get).ahead with
    | some (.operator symbol) =>
        if symbol = ascii ")" then return () else throw (.unexpected symbol)
    | _ => throw (.unfinished (ascii ")"))

def grammar (self : Inner) (source : Source) : Grammar :=
  { extended := source.extended, groups := source.groups
    commandSource := commandSource self source }

/-! Here-documents. -/

/-- The rest of a line with its line end.  Where nothing is quoted, an escaped line end does not end
it, and neither does one inside a command substitution that `skip` finds the end of.  The number
bounds the length of the text. -/
def documentLine (quoted : Bool) (skip : Bytes → Option Bytes) : Nat → Bytes → Bytes × Bytes
  | 0, input => ([], input)
  | _, [] => ([], [])
  | bound + 1, byte :: rest =>
      let continueWith := fun (text rest : Bytes) =>
        let (others, rest) := documentLine quoted skip bound rest
        (text ++ others, rest)
      if byte = Ascii.newline then ([byte], rest)
      else if quoted then continueWith [byte] rest
      else if byte = Ascii.backslash then continueWith (byte :: rest.take 1) (rest.drop 1)
      else
        match skip (byte :: rest) with
        | some after => continueWith ((byte :: rest).take (rest.length + 1 - after.length)) after
        | none => continueWith [byte] rest

/-- The lines of a here-document, up to its delimiter or the end of the text. -/
def documentLines (pending : Pending) (skip : Bytes → Option Bytes) : Nat → Bytes → Bytes × Bytes
  | 0, input => ([], input)
  | _, [] => ([], [])
  | bound + 1, input =>
      let input := if pending.indented then input.dropWhile (· == Ascii.tab) else input
      let plain := input.takeWhile (· != Ascii.newline)
      if plain = pending.delimiter then ([], input.drop (plain.length + 1))
      else
        let (line, rest) := documentLine pending.quoted skip (bound + 1) input
        let (others, rest) := documentLines pending skip bound rest
        (line ++ others, rest)

/-- The text after a command substitution at the front of the line of a here-document.  In the
extended language its lines are looked at like all others. -/
def afterSubstitution (grammar : Grammar) (input : Bytes) : Option Bytes :=
  if grammar.extended then none
  else
    match input with
    | Ascii.backquote :: rest => (Word.backquoted true rest).toOption.map (·.2)
    | Ascii.dollar :: rest =>
        match Word.joined rest with
        | Ascii.openParenthesis :: rest =>
            if (Word.joined rest).head? = some Ascii.openParenthesis then none
            else (grammar.commandSource rest).toOption.map (·.2)
        | _ => none
    | _ => none

def takeDocuments (self : Inner) : List Pending → Reader Unit
  | [] => return ()
  | pending :: others => do
      let source ← get
      let skip := afterSubstitution (grammar self source)
      let (text, rest) := documentLines pending skip (source.rest.length + 1) source.rest
      let word ← if pending.quoted then pure [Piece.text true text]
        else Word.ofDocument (grammar self source) text
      set { source with
        rest, line := source.line + text.count Ascii.newline + 1
        documents := (pending.number, word) :: source.documents }
      takeDocuments self others

/-! Lexemes. -/

def next (self : Inner) : Reader Lexeme := do
  let source ← get
  match source.ahead with
  | some lexeme =>
      set { source with ahead := none }
      return lexeme
  | none =>
      let (lexeme, rest) ← Lexeme.next (grammar self source) source.rest
      let taken := source.rest.take (source.rest.length - rest.length)
      let start := (Lexeme.skipBlanks source.rest.length source.rest).length
      set { source with
        rest, line := source.line + taken.count Ascii.newline
        invited := source.inviting.any fun length =>
          start ≤ length ∧ length < source.rest.length
        inviting := source.inviting.filter (· < start) }
      match lexeme with
      | .lineEnd =>
          let pending := (← get).pending
          modify fun source => { source with pending := [] }
          takeDocuments self pending
          return lexeme
      | _ => return lexeme

def peek (self : Inner) : Reader Lexeme := do
  let lexeme ← next self
  modify fun source => { source with ahead := some lexeme }
  return lexeme

def isOperator (symbol : String) : Lexeme → Bool
  | .operator found => found == ascii symbol
  | _ => false

def isReserved (text : String) : Lexeme → Bool
  | .word word => word.plain? == some (ascii text)
  | _ => false

def shown : Lexeme → Bytes
  | .word word => ((word.literal?).map (·.1)).getD (ascii "word")
  | .operator symbol | .redirection _ _ symbol => symbol
  | .lineEnd => ascii "newline"
  | .ending => ascii "end of file"

def unexpected {α : Type} (lexeme : Lexeme) : Reader α :=
  throw (.unexpected (shown lexeme))

def expectOperator (self : Inner) (symbol : String) : Reader Unit := do
  let lexeme ← next self
  if isOperator symbol lexeme then return () else unexpected lexeme

def expectReserved (self : Inner) (text : String) : Reader Unit := do
  let lexeme ← next self
  if isReserved text lexeme then return () else unexpected lexeme

def takeOperator (self : Inner) (symbol : String) : Reader Bool := do
  if isOperator symbol (← peek self) then
    let _ ← next self
    return true
  else return false

def takeReserved (self : Inner) (text : String) : Reader Bool := do
  if isReserved text (← peek self) then
    let _ ← next self
    return true
  else return false

def skipLines (self : Inner) : Reader Unit := do
  let _ ← many (do
    match ← peek self with
    | .lineEnd =>
        let _ ← next self
        return some ()
    | _ => return none) (← bound)

/-- Replace an alias at the beginning of a command.  The answer is whether there was one. -/
def replaceAlias (self : Inner) : Reader Bool := do
  match ← peek self with
  | .word word =>
      let source ← get
      let length := source.rest.length
      let expanding := source.expanding.filter fun (_, limit) => limit ≤ length
      match word.plain?.bind fun name => (source.aliases.lookup name).map (name, ·) with
      | some (name, text) =>
          if expanding.any (·.1 == name) then return false
          else
            let isInviting := text.getLast?.any fun byte =>
              byte == Ascii.space || byte == Ascii.tab
            set { source with
              ahead := none, rest := text ++ source.rest
              inviting := if isInviting then length :: source.inviting else source.inviting
              expanding := (name, length) :: expanding }
            return true
      | none => return false
  | _ => return false

def replaceAliases (self : Inner) : Reader Unit := do
  let _ ← many (do if ← replaceAlias self then return some () else return none) 100

def reserved : List String :=
  ["!", "case", "do", "done", "elif", "else", "esac", "fi", "for", "if", "in", "then", "until",
    "while", "\x7b", "\x7d"]

/-- Replace aliases where a command begins.  A reserved word stays what it is. -/
def replaceLeading (self : Inner) : Reader Unit := do
  let _ ← many (do
    let lexeme ← peek self
    if !(← get).extended && reserved.any (isReserved · lexeme) then return none
    else if ← replaceAlias self then return some () else return none) 100

def closers : List String :=
  ["then", "else", "elif", "fi", "do", "done", "esac", "\x7d"]

def isCloser (lexeme : Lexeme) : Bool :=
  closers.any (isReserved · lexeme)

def isListEnd : Lexeme → Bool
  | .ending => true
  | .operator symbol => [")", ";;", ";&", ";;&"].any fun known => ascii known == symbol
  | lexeme => isCloser lexeme

/-! Assignments and redirections. -/

def elements (self : Inner) : Reader (List Word) := do
  let words ← many (do
    match ← next self with
    | .word word => return some (some word)
    | .lineEnd => return some none
    | lexeme => if isOperator ")" lexeme then return none else unexpected lexeme) (← bound)
  return words.filterMap id

/-- A subscript at the front of the value of an assignment: its pieces, and the text after the
closing bracket with the pieces that follow. -/
def splitSubscript : Word → Option (Word × Word)
  | [] => none
  | .text false content :: rest =>
      let before := content.takeWhile (· != Ascii.closeBracket)
      match content.drop before.length with
      | _ :: after =>
          some (if before = [] then [] else [.text false before],
            if after = [] then rest else .text false after :: rest)
      | [] => do
          let (index, value) ← splitSubscript rest
          return (.text false content :: index, value)
  | piece :: rest => do
      let (index, value) ← splitSubscript rest
      return (piece :: index, value)

def assignedValue? (extended : Bool) : Word → Option (Bool × Word)
  | .text false content :: rest =>
      match content with
      | Ascii.equals :: value =>
          some (false, if value = [] then rest else .text false value :: rest)
      | Ascii.plus :: Ascii.equals :: value =>
          if extended then some (true, if value = [] then rest else .text false value :: rest)
          else none
      | _ => none
  | _ => none

def assignment? (extended : Bool) : Word → Option Assignment
  | .text false content :: rest => do
      let name := content.takeWhile isNameByte
      if !isName name then none
      else
        let after : Word := match content.drop name.length with
          | [] => rest
          | text => .text false text :: rest
        match extended, content.drop name.length with
        | true, Ascii.openBracket :: text =>
            let (index, value) ←
              splitSubscript (if text = [] then rest else .text false text :: rest)
            let (adding, value) ← assignedValue? extended value
            return { name, index, adding, value }
        | _, _ =>
            let (adding, value) ← assignedValue? extended after
            return { name, adding, value }
  | _ => none

def redirect? (symbol : Bytes) : Option Redirect :=
  ([("<", .input), (">", .output), (">>", .append), (">|", .clobber), ("<>", .both),
    ("<&", .duplicateInput), (">&", .duplicateOutput), ("<<<", .text),
    ("&>", .outputAndErrors false), ("&>>", .outputAndErrors true)].map
      fun (known, kind) => (ascii known, kind)).lookup symbol

def redirection (self : Inner) (number : Option Nat) (holder : Option Bytes) (symbol : Bytes) :
    Reader Redirection := do
  match ← next self with
  | .word target =>
      match redirect? symbol with
      | some kind => return { number, holder, kind, target }
      | none =>
          let (delimiter, quoted) := (target.literal?).getD ([], false)
          let source ← get
          let pending : Pending :=
            { number := source.fresh, delimiter, quoted, indented := symbol == ascii "<<-" }
          set { source with pending := source.pending ++ [pending], fresh := source.fresh + 1 }
          return { number, holder, kind := .document source.fresh, target := [] }
  | lexeme => unexpected lexeme

def redirections (self : Inner) : Reader (List Redirection) := do
  many (do
    match ← peek self with
    | .redirection number holder symbol =>
        let _ ← next self
        return some (← redirection self number holder symbol)
    | _ => return none) (← bound)

def withRedirections (self : Inner) (body : Command) : Reader Command := do
  match ← redirections self with
  | [] => return body
  | found => return .redirect body found

/-! Simple commands and functions. -/

inductive Part where
  | assignment (assignment : Assignment)
  | word (word : Word)
  | redirection (redirection : Redirection)

def isAssignmentPart : Part → Bool
  | .word _ => false
  | _ => true

def declarators : List Bytes :=
  ["declare", "local", "export", "readonly", "typeset"].map ascii

def part (self : Inner) (declares leading : Bool) : Reader (Option Part) := do
  let _ ← peek self
  if leading || (← get).invited then replaceAliases self
  match ← peek self with
  | .redirection number holder symbol =>
      let _ ← next self
      return some (.redirection (← redirection self number holder symbol))
  | .word word =>
      let _ ← next self
      let extended := (← get).extended
      let array := extended && (leading || declares) && (← opensArray word)
      match (if leading || array then assignment? extended word else none) with
      | some assignment =>
          if array then
            let _ ← next self
            let found ← elements self
            let value : Word := [.elements found]
            if leading then return some (.assignment { assignment with value })
            else return some (.word (word ++ value))
          else return some (.assignment assignment)
      | none => return some (.word word)
  | _ => return none
where
  /-- Whether an open parenthesis follows the equals sign at the end of a word. -/
  opensArray (word : Word) : Reader Bool := do
    match word.getLast? with
    | some (.text false content) =>
        return content.getLast? == some Ascii.equals &&
          (← get).rest.head? == some Ascii.openParenthesis
    | _ => return false

def parts (self : Inner) : Nat → Bool → Bool → Reader (List Part)
  | 0, _, _ => throw .tooDeep
  | bound + 1, declares, leading => do
      match ← part self declares leading with
      | none => return []
      | some found =>
          let declares := match found, leading with
            | .word word, true => word.plain?.any (declarators.contains ·)
            | _, _ => declares
          return found :: (← parts self bound declares (leading && isAssignmentPart found))

def specialBuiltins : List Bytes :=
  [".", ":", "break", "continue", "eval", "exec", "exit", "export", "readonly", "return", "set",
    "shift", "times", "trap", "unset"].map ascii

def simple (self : Inner) : Reader Command := do
  let line := (← get).line
  let found ← parts self (← bound) false true
  let opened ← takeOperator self "("
  match opened, found with
  | true, [.word word] =>
      expectOperator self ")"
      let extended := (← get).extended
      match word.literal? with
      | some (name, false) =>
          if extended || isName name && !specialBuiltins.contains name then
            skipLines self
            return .define name (← self.command)
          else throw (.unexpected (ascii "("))
      | _ => throw (.unexpected (ascii "("))
  | true, _ => throw (.unexpected (ascii "("))
  | false, [] => unexpected (← next self)
  | false, found =>
      return .simple line
        (found.filterMap fun | .assignment assignment => some assignment | _ => none)
        (found.filterMap fun | .word word => some word | _ => none)
        (found.filterMap fun | .redirection redirection => some redirection | _ => none)

/-! Compound commands.  Each takes the reader of lists that stand inside it. -/

def body (self : Inner) : Reader Command := do
  skipLines self
  replaceLeading self
  let lexeme ← peek self
  if isListEnd lexeme then unexpected lexeme else self.list

def loopBody (self : Inner) : Reader Command := do
  expectReserved self "do"
  let found ← body self
  expectReserved self "done"
  return found

/-- What follows `if` or `elif`.  The number bounds how many of them there are. -/
def conditional (self : Inner) : Nat → Reader Command
  | 0 => throw .tooDeep
  | bound + 1 => do
      let test ← body self
      expectReserved self "then"
      let yes ← body self
      if ← takeReserved self "elif" then
        return .conditional test yes (← conditional self bound)
      else if ← takeReserved self "else" then
        let no ← body self
        expectReserved self "fi"
        return .conditional test yes no
      else
        expectReserved self "fi"
        return .conditional test yes .skip

def arithmeticText (self : Inner) : Reader Word := do
  let source ← get
  let (word, rest) ← Word.readPieces (grammar self source) (2 * source.rest.length + 2)
    (.arithmetic 0) [] source.rest
  set { source with rest }
  return word

def splitAtSemicolons : Word → List Word
  | [] => [[]]
  | .text quoted content :: rest =>
      let others := splitAtSemicolons rest
      let texts := content.splitOn Ascii.semicolon
      match texts.reverse with
      | [] => others
      | last :: before =>
          (before.reverse.map fun text => [Piece.text quoted text]) ++
            ((Piece.text quoted last :: others.headD []) :: others.tail)
  | piece :: rest =>
      match splitAtSemicolons rest with
      | [] => [[piece]]
      | first :: others => (piece :: first) :: others

def loopBlock (self : Inner) : Reader Command := do
  if (← get).extended then
    if ← takeReserved self "\x7b" then
      let found ← body self
      expectReserved self "\x7d"
      return found
  loopBody self

def itemsAfter (self : Inner) : Reader (Option (List Word)) := do
  skipLines self
  if ← takeReserved self "in" then
    let items ← many (do
      match ← peek self with
      | .word word =>
          let _ ← next self
          return some word
      | _ => return none) (← bound)
    match ← peek self with
    | .lineEnd => pure ()
    | _ => expectOperator self ";"
    skipLines self
    return some items
  else
    let _ ← takeOperator self ";"
    skipLines self
    return none

/-- What follows `for`. -/
def each (self : Inner) : Reader Command := do
  let source ← get
  let doubled := source.extended &&
    (ascii "((").isPrefixOf (source.rest.dropWhile (· == Ascii.space))
  if doubled then
    expectOperator self "("
    expectOperator self "("
    let header ← arithmeticText self
    let _ ← takeOperator self ";"
    skipLines self
    let found ← block
    match splitAtSemicolons header with
    | [first, test, next] => return .count first test next found
    | _ => throw (.unexpected (ascii "(("))
  else
    match ← next self with
    | .word word =>
        match word.plain? with
        | some name =>
            if !isName name then throw (.unexpected name)
            let items ← itemsAfter self
            return .each name items (← block)
        | none => unexpected (.word word)
    | lexeme => unexpected lexeme
where
  block : Reader Command := loopBlock self

/-- What follows `select`. -/
def selection (self : Inner) : Reader Command := do
  match ← next self with
  | .word word =>
      let name := (word.plain?).getD []
      if !isName name then throw (.unexpected name)
      let items ← itemsAfter self
      return .select name items (← loopBlock self)
  | lexeme => unexpected lexeme

def patterns (self : Inner) : Nat → Reader (List Word)
  | 0 => throw .tooDeep
  | bound + 1 => do
      match ← next self with
      | .word word =>
          if ← takeOperator self "|" then return word :: (← patterns self bound)
          else
            expectOperator self ")"
            return [word]
      | lexeme => unexpected lexeme

def branch (self : Inner) : Reader (Option (List Word × Command × BranchEnd)) := do
  skipLines self
  if ← takeReserved self "esac" then return none
  else
    let _ ← takeOperator self "("
    let found ← patterns self (← bound)
    skipLines self
    let commands ← if isListEnd (← peek self) then pure Command.skip else self.list
    skipLines self
    if ← takeOperator self ";;" then return some (found, commands, .leave)
    else if ← takeOperator self ";&" then return some (found, commands, .enterNext)
    else if ← takeOperator self ";;&" then return some (found, commands, .testNext)
    else if isReserved "esac" (← peek self) then return some (found, commands, .leave)
    else unexpected (← next self)

/-- What follows `case`. -/
def choice (self : Inner) : Reader Command := do
  match ← next self with
  | .word subject =>
      skipLines self
      expectReserved self "in"
      return .choose subject (← many (branch self) (← bound))
  | lexeme => unexpected lexeme

/-! Conditions of the extended language. -/

def isConditionOperator (text : Bytes) : Bool :=
  (["=", "==", "!=", "=~", "-eq", "-ne", "-lt", "-le", "-gt", "-ge", "-nt", "-ot", "-ef"].map
    ascii).contains text

/-- The operand of a match: everything up to a blank, where parentheses and bars belong to the
pattern. -/
def matchOperand (self : Inner) : Reader Word := do
  let source ← get
  let input := source.rest.dropWhile (· == Ascii.space)
  let (word, rest) ← piecesUpToBlank (grammar self source) (input.length + 1) 0 [] input
  set { source with rest }
  return word
where
  piecesUpToBlank (grammar : Grammar) :
      Nat → Nat → Word → Bytes → Except SyntaxFault (Word × Bytes)
    | 0, _, word, input => .ok (word, input)
    | bound + 1, depth, word, input => do
        match input with
        | [] => return (word, [])
        | byte :: rest =>
            let plainly := fun (depth : Nat) =>
              piecesUpToBlank grammar bound depth (word.addText false [byte]) rest
            if byte = Ascii.openParenthesis then plainly (depth + 1)
            else if byte = Ascii.closeParenthesis then
              if depth = 0 then return (word, input) else plainly (depth - 1)
            else if byte = Ascii.bar ∨ (depth ≠ 0 ∧ (isBlank byte ∨ (ascii "<>;&").contains byte)) then
              plainly depth
            else if isBlank byte ∨ (ascii "<>;&").contains byte then return (word, input)
            else
              let (found, rest) ← Word.read { grammar with groups := false } input
              piecesUpToBlank grammar bound depth (found.foldl Word.addPiece word) rest

def conditionPrimary (self : Inner) (inner : Reader Condition) : Reader Condition := do
  match ← next self with
  | .operator symbol =>
      if symbol = ascii "(" then
        let found ← inner
        expectOperator self ")"
        return found
      else throw (.unexpected symbol)
  | .word word =>
      let text := (word.plain?).getD []
      let isUnary := text.length = 2 ∧ text.head? = some Ascii.minus
      match ← peek self with
      | .word operator =>
          let symbol := (operator.plain?).getD []
          if isConditionOperator symbol then
            let _ ← next self
            let right ← if symbol = ascii "=~" then matchOperand self
              else match ← next self with
                | .word right => pure right
                | lexeme => unexpected lexeme
            return .binary word symbol right
          else if isUnary then
            let _ ← next self
            return .unary text operator
          else return .word word
      | .redirection none none symbol =>
          let _ ← next self
          match ← next self with
          | .word right => return .binary word symbol right
          | lexeme => unexpected lexeme
      | _ => return .word word
  | lexeme => unexpected lexeme

def condition (self : Inner) : Nat → Reader Condition
  | 0 => throw .tooDeep
  | bound + 1 => do
      skipLines self
      let negated ← takeReserved self "!"
      if negated then
        let found ← term bound
        rest bound (.negate found)
      else
        let found ← conditionPrimary self (condition self bound)
        rest bound found
where
  term (bound : Nat) : Reader Condition := conditionPrimary self (condition self bound)
  rest (bound : Nat) (left : Condition) : Reader Condition := do
    skipLines self
    if ← takeOperator self "&&" then
      match ← condition self bound with
      | .either second third => return .either (.both left second) third
      | right => return .both left right
    else if ← takeOperator self "||" then return .either left (← condition self bound)
    else return left

def beginsCompound (lexeme : Lexeme) : Bool :=
  isOperator "(" lexeme ||
    ["\x7b", "if", "while", "until", "for", "case", "select", "[["].any (isReserved · lexeme)

/-- What follows `coproc`: a compound command, perhaps with a name before it, or a simple one. -/
def cooperation (self : Inner) : Reader Command := do
  let usual := ascii "COPROC"
  let lexeme ← peek self
  if beginsCompound lexeme then return .cooperate usual (← self.command)
  else
    let before ← get
    let _ ← next self
    match lexeme with
    | .word word =>
        match word.plain? with
        | some name =>
            if isName name then
              if beginsCompound (← peek self) then return .cooperate name (← self.command)
        | none => pure ()
    | _ => pure ()
    set before
    return .cooperate usual (← self.command)

def extendedCommand? (self : Inner) : Reader (Option Command) := do
  let source ← get
  if !source.extended then return none
  else
    match ← peek self with
    | .operator symbol =>
        if symbol = ascii "(" ∧ (← get).rest.head? = some Ascii.openParenthesis then
          let before ← get
          set { before with ahead := none, rest := before.rest.drop 1 }
          try
            return some (.arithmetic (← arithmeticText self))
          catch _ =>
            set before
            return none
        else return none
    | lexeme =>
        if isReserved "[[" lexeme then
          let _ ← next self
          let groups := (← get).groups
          modify fun source => { source with groups := true }
          let found ← condition self (← bound)
          expectReserved self "]]"
          modify fun source => { source with groups }
          return some (.condition found)
        else if isReserved "select" lexeme then
          let _ ← next self
          return some (← selection self)
        else if isReserved "coproc" lexeme then
          let _ ← next self
          return some (← cooperation self)
        else if isReserved "function" lexeme then
          let _ ← next self
          match ← next self with
          | .word word =>
              if ← takeOperator self "(" then expectOperator self ")"
              skipLines self
              return some (.define ((word.plain?).getD []) (← self.command))
          | lexeme => unexpected lexeme
        else return none

/-! Pipelines and lists. -/

def command (self : Inner) : Reader Command := do
  replaceLeading self
  match ← extendedCommand? self with
  | some (.define name found) => return .define name found
  | some found => withRedirections self found
  | none =>
      let lexeme ← peek self
      if isOperator "(" lexeme then
        let _ ← next self
        let found ← body self
        expectOperator self ")"
        withRedirections self (.subshell found)
      else if isReserved "\x7b" lexeme then
        let _ ← next self
        let found ← body self
        expectReserved self "\x7d"
        withRedirections self (.group found)
      else if isReserved "if" lexeme then
        let _ ← next self
        let found ← conditional self (← bound)
        withRedirections self found
      else if isReserved "while" lexeme || isReserved "until" lexeme then
        let _ ← next self
        let test ← body self
        let found ← loopBody self
        withRedirections self (.loop (isReserved "while" lexeme) test found)
      else if isReserved "for" lexeme then
        let _ ← next self
        let found ← each self
        withRedirections self found
      else if isReserved "case" lexeme then
        let _ ← next self
        let found ← choice self
        withRedirections self found
      else if isListEnd lexeme then unexpected lexeme
      else simple self

def joinErrors (command : Command) : Command :=
  .redirect command [{ number := some 2, kind := .duplicateOutput, target := [.text false (ascii "1")] }]

def pipeRest (self : Inner) (first : Command) : Nat → Reader (List Command)
  | 0 => throw .tooDeep
  | bound + 1 => do
      if ← takeOperator self "|" then
        skipLines self
        return first :: (← pipeRest self (← command self) bound)
      else if ← takeOperator self "|&" then
        skipLines self
        return joinErrors first :: (← pipeRest self (← command self) bound)
      else return [first]

def untimedPipeline (self : Inner) : Reader Command := do
  let negated ← takeReserved self "!"
  let commands ← pipeRest self (← command self) (← bound)
  let found := match commands with
    | [single] => single
    | commands => .pipe commands
  return if negated then .negate found else found

def pipeline (self : Inner) : Reader Command := do
  replaceLeading self
  let timed ← if (← get).extended then takeReserved self "time" else pure false
  if timed then
    let portable ← takeReserved self "-p"
    let lexeme ← peek self
    match lexeme with
    | .lineEnd | .ending => return .time portable .skip
    | _ =>
        if isOperator ";" lexeme then return .time portable .skip
        else return .time portable (← untimedPipeline self)
  else untimedPipeline self

def andOrRest (self : Inner) (first : Command) : Nat → Reader Command
  | 0 => throw .tooDeep
  | bound + 1 => do
      if ← takeOperator self "&&" then
        skipLines self
        andOrRest self (.both first (← pipeline self)) bound
      else if ← takeOperator self "||" then
        skipLines self
        andOrRest self (.either first (← pipeline self)) bound
      else return first

def andOr (self : Inner) : Reader Command := do
  andOrRest self (← pipeline self) (← bound)

inductive Separator where
  | semicolon
  | ampersand
  | lineEnd
  | none
  deriving DecidableEq

/-- What follows a command.  A line end is left for who reads a single line. -/
def separator (self : Inner) (single : Bool) : Reader Separator := do
  match ← peek self with
  | .lineEnd =>
      if single then return .none
      else
        let _ ← next self
        return .lineEnd
  | lexeme =>
      if isOperator ";" lexeme then
        let _ ← next self
        return .semicolon
      else if isOperator "&" lexeme then
        let _ ← next self
        return .ampersand
      else return .none

def inSequence : List Command → Command
  | [] => .skip
  | [command] => command
  | command :: rest => .sequence command (inSequence rest)

/-- Commands separated by semicolons, ampersands and, unless the list is a single line, line
ends. -/
def items (self : Inner) (single : Bool) : Nat → Reader (List Command)
  | 0 => throw .tooDeep
  | bound + 1 => do
      replaceLeading self
      if isListEnd (← peek self) then return []
      else
        let first ← andOr self
        match ← separator self single with
        | .none => return [first]
        | kind =>
            let first := if kind = .ampersand then Command.background first else first
            if !single then skipLines self
            match ← peek self with
            | .lineEnd => return [first]
            | _ => return first :: (← items self single bound)

def list (self : Inner) : Reader Command := do
  skipLines self
  return inSequence (← items self false (← bound))

/-- Readers for commands of a bounded depth. -/
def inner : Nat → Inner
  | 0 => ⟨throw .tooDeep, throw .tooDeep⟩
  | depth + 1 =>
      let deeper := inner depth
      ⟨list deeper, command deeper⟩

def maximalDepth : Nat := 1000

def line : Reader (Option (Command × Bool)) := do
  let self := inner maximalDepth
  match ← peek self with
  | .ending => return none
  | .lineEnd =>
      let _ ← next self
      return some (.skip, false)
  | _ =>
      let commands ← items self true (← bound)
      match ← next self with
      | .lineEnd => return some (inSequence commands, false)
      | .ending => return some (inSequence commands, true)
      | lexeme => unexpected lexeme

def document : Reader Word := do
  let self := inner maximalDepth
  let source ← get
  Word.ofDocument (grammar self source) source.rest

def whole : Reader Command := do
  let self := inner maximalDepth
  let commands ← list self
  match ← next self with
  | .ending => return commands
  | lexeme => unexpected lexeme

end Reader

end Rpn.Shell

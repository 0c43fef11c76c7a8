import Rpn.Text.Escape
import Rpn.Text.Regex.Reader

/-! Scripts that edit a stream of lines.  Only serves the test environment. -/

namespace Rpn.Tool.Sed

open Text

abbrev Pattern := Option Regex.Matcher

inductive Address where
  | line (number : Nat)
  | step (first every : Nat)
  | last
  | pattern (pattern : Pattern)

inductive RangeEnd where
  | line (number : Nat)
  | count (number : Nat)
  | multiple (number : Nat)
  | last
  | pattern (pattern : Pattern)

/-- Which lines a command is for.  A range `fromStart` may end at the first line already. -/
structure Selector where
  first : Option Address := none
  second : Option RangeEnd := none
  fromStart : Bool := false
  negated : Bool := false

/-- How letters of a replacement are changed: all that follow, or the next one. -/
inductive Casing where
  | upper
  | lower
  | upperNext
  | lowerNext
  | plain
  deriving DecidableEq

inductive Part where
  | text (text : Bytes)
  | group (number : Nat)
  | casing (casing : Casing)

structure Substitution where
  pattern : Pattern
  parts : List Part
  all : Bool := false
  number : Nat := 1
  prints : Bool := false
  performs : Bool := false
  file : Option Bytes := none

/-- What a command does.  A block that is not selected goes on after its end, and jumps go to the
place of a command. -/
inductive Action where
  | block (stop : Nat)
  | blockEnd
  | append (text : Bytes)
  | insert (text : Bytes)
  | change (text : Bytes)
  | jump (label : Bytes)
  | jumpIfChanged (label : Bytes)
  | jumpUnlessChanged (label : Bytes)
  | label (name : Bytes)
  | delete
  | deleteFirst
  | takeHeld
  | appendHeld
  | hold
  | appendHold
  | exchange
  | list (width : Option Nat)
  | next
  | appendNext
  | print
  | printFirst
  | quit (status : Nat)
  | quitSilently (status : Nat)
  | perform (command : Bytes)
  | readFile (name : Bytes)
  | readLine (name : Bytes)
  | writeFile (name : Bytes)
  | writeFirst (name : Bytes)
  | substitute (substitution : Substitution)
  | translate (table : List (UInt8 × UInt8))
  | number
  | fileName
  | empty
  | nothing

structure Command where
  selector : Selector
  action : Action

/-! Reading. -/

/-- Why a script is refused, and after how many bytes.  The fault of a part of the script `asWhole`
has no place inside it. -/
structure Fault where
  place : Option Nat
  asWhole : Bool := false
  message : Bytes

/-- The text that is left, how much was taken, whether the extended dialect is used, and where the
blocks begin that are open. -/
structure Source where
  rest : Bytes
  taken : Nat := 0
  extended : Bool := false
  blocks : List Nat := []

abbrev Reader := StateT Source (Except Fault)

def refuse {α : Type} (message : String) : Reader α := do
  throw { place := some (← get).taken, message := ascii message }

def refuseText {α : Type} (message : Bytes) : Reader α := do
  throw { place := some (← get).taken, message }

def take? : Reader (Option UInt8) := do
  let state ← get
  match state.rest with
  | [] => return none
  | byte :: rest =>
      set { state with rest, taken := state.taken + 1 }
      return some byte

def peek? : Reader (Option UInt8) :=
  return (← get).rest.head?

def takeWhile (condition : UInt8 → Bool) : Reader Bytes := do
  let state ← get
  let found := state.rest.takeWhile condition
  set { state with rest := state.rest.drop found.length, taken := state.taken + found.length }
  return found

def skipBlanks : Reader Unit := do
  let _ ← takeWhile fun byte => isSpace byte && byte != Ascii.newline

def takeNumber : Reader Nat := do
  return Bytes.valueOf (← takeWhile isDigit)

/-- The text up to a delimiter.  A backslash takes its meaning from the delimiter; in a pattern, a
set between brackets may hold it. -/
def untilDelimiter (delimiter : UInt8) (isPattern : Bool) :
    Nat → Bytes → Option (Bytes × Nat)
  | 0, _ => none
  | _, [] => none
  | bound + 1, byte :: rest =>
      if byte = delimiter then some ([], 1)
      else if byte = Ascii.backslash then
        match rest with
        | [] => none
        | escaped :: rest => do
            let (text, count) ← untilDelimiter delimiter isPattern bound rest
            if escaped = delimiter then
              if isPattern then return (delimiter :: text, count + 2)
              else if delimiter = Ascii.ampersand then
                return (Ascii.backslash :: delimiter :: text, count + 2)
              else return (delimiter :: text, count + 2)
            else if escaped = 110 ∧ isPattern then return (Ascii.newline :: text, count + 2)
            else return (Ascii.backslash :: escaped :: text, count + 2)
      else if byte = Ascii.newline ∧ isPattern ∧ delimiter ≠ Ascii.newline then none
      else if byte = Ascii.openBracket ∧ isPattern then do
        let length := Regex.setLength (rest.length + 1) true rest
        let inside := rest.take length
        let (text, count) ← untilDelimiter delimiter isPattern bound (rest.drop length)
        return (Ascii.openBracket :: bracketNewlines inside ++ text, count + 1 + length)
      else do
        let (text, count) ← untilDelimiter delimiter isPattern bound rest
        return (byte :: text, count + 1)
where
  bracketNewlines : Bytes → Bytes
    | Ascii.backslash :: 110 :: rest => Ascii.newline :: bracketNewlines rest
    | byte :: rest => byte :: bracketNewlines rest
    | [] => []

def takeDelimited (delimiter : UInt8) (isPattern : Bool) (missing : String) : Reader Bytes := do
  let state ← get
  match untilDelimiter delimiter isPattern (state.rest.length + 1) state.rest with
  | some (text, count) =>
      set { state with rest := state.rest.drop count, taken := state.taken + count }
      return text
  | none =>
      set { state with rest := [], taken := state.taken + state.rest.length }
      refuse missing

/-- Replace escapes that name bytes by number or letter.  In a replacement a byte that is named by
number has no meaning of its own. -/
def nameBytes (letters : Bool) (inReplacement : Bool := false) : Nat → Bytes → Bytes
  | 0, text => text
  | _, [] => []
  | bound + 1, Ascii.backslash :: letter :: rest =>
      let digits := fun (count base : Nat) =>
        (rest.take count).takeWhile fun byte =>
          ((Binary.hexValue? byte).filter (· < base)).isSome
      let value := fun (base : Nat) (found : Bytes) =>
        (found.foldl (fun number byte => number * base + (Binary.hexValue? byte).getD 0) 0).toUInt8
      let numbered := fun (count base : Nat) =>
        let found := digits count base
        if found = [] then Ascii.backslash :: letter :: nameBytes letters inReplacement bound rest
        else
          let byte := value base found
          let named := if inReplacement ∧ (byte = Ascii.ampersand ∨ byte = Ascii.backslash) then
              [Ascii.backslash, byte]
            else [byte]
          named ++ nameBytes letters inReplacement bound (rest.drop found.length)
      match Char.ofNat letter.toNat with
      | 'x' => numbered 2 16
      | 'o' => numbered 3 8
      | 'd' => numbered 3 10
      | 'c' =>
          match rest with
          | byte :: rest => (toUpper byte ^^^ 64) :: nameBytes letters inReplacement bound rest
          | [] => [Ascii.backslash, letter]
      | _ =>
          let known := (ascii "afrtv").zip ([7, 12, 13, 9, 11] : Bytes)
          match letters, known.lookup letter with
          | true, some byte => byte :: nameBytes letters inReplacement bound rest
          | _, _ => Ascii.backslash :: letter :: nameBytes letters inReplacement bound rest
  | bound + 1, byte :: rest => byte :: nameBytes letters inReplacement bound rest

/-- Compile a pattern.  An empty one stands for the last that was used. -/
def compile (text : Bytes) (folded multiline : Bool) : Reader (Pattern × Nat) := do
  if text = [] then return (none, 9)
  let extended := (← get).extended
  let text := nameBytes true false (text.length + 1) text
  match Regex.read { extended, folded, controls := true } text with
  | .ok (regex, groups) => return (some (regex.matcher multiline), groups)
  | .error fault => refuseText fault.message

/-! Addresses. -/

def takePatternFlags : Nat → Bool → Bool → Reader (Bool × Bool)
  | 0, folded, multiline => return (folded, multiline)
  | bound + 1, folded, multiline => do
      match ← peek? with
      | some 73 =>
          let _ ← take?
          takePatternFlags bound true multiline
      | some 77 =>
          let _ ← take?
          takePatternFlags bound folded true
      | _ => return (folded, multiline)

def takePattern (delimiter : UInt8) : Reader Pattern := do
  let text ← takeDelimited delimiter true "unterminated address regex"
  let (folded, multiline) ← takePatternFlags 10 false false
  return (← compile text folded multiline).1

def patternHere? : Reader (Option Pattern) := do
  match ← peek? with
  | some Ascii.slash =>
      let _ ← take?
      return some (← takePattern Ascii.slash)
  | some Ascii.backslash =>
      let _ ← take?
      match ← take? with
      | some delimiter => return some (← takePattern delimiter)
      | none => refuse "unterminated address regex"
  | _ => return none

def address? : Reader (Option Address) := do
  match ← patternHere? with
  | some pattern => return some (.pattern pattern)
  | none =>
      match ← peek? with
      | some Ascii.dollar =>
          let _ ← take?
          return some .last
      | some byte =>
          if !isDigit byte then return none
          else
            let number ← takeNumber
            skipBlanks
            if (← peek?) = some Ascii.tilde then
              let _ ← take?
              skipBlanks
              let every ← takeNumber
              return some (.step number every)
            else return some (.line number)
      | none => return none

def rangeEnd : Reader RangeEnd := do
  match ← peek? with
  | some Ascii.plus =>
      let _ ← take?
      return .count (← takeNumber)
  | some Ascii.tilde =>
      let _ ← take?
      return .multiple (← takeNumber)
  | _ =>
      match ← address? with
      | some (.line number) => return .line number
      | some (.step number _) => return .line number
      | some .last => return .last
      | some (.pattern pattern) => return .pattern pattern
      | none =>
          let _ ← take?
          refuse "unexpected `,'"

def takeNegation : Nat → Bool → Reader Bool
  | 0, negated => return negated
  | bound + 1, negated => do
      skipBlanks
      if (← peek?) = some Ascii.exclamation then
        let _ ← take?
        if negated then refuse "multiple `!'s"
        takeNegation bound true
      else return negated

def selector : Reader Selector := do
  let first ← address?
  skipBlanks
  let second ←
    if first.isSome ∧ (← peek?) = some Ascii.comma then
      let _ ← take?
      skipBlanks
      pure (some (← rangeEnd))
    else pure none
  let fromStart ← match first, second with
    | some (.line 0), some (.pattern _) => pure true
    | some (.line 0), _ | some (.step 0 0), _ =>
        let _ ← take?
        refuse "invalid usage of line address 0"
    | _, _ => pure false
  let negated ← takeNegation 2 false
  return { first, second, fromStart, negated }

/-! Commands. -/

def endOfCommand : Reader Unit := do
  skipBlanks
  match ← peek? with
  | none => return ()
  | some byte =>
      if byte = Ascii.closeBrace ∨ byte = Ascii.hash then return ()
      else
        let _ ← take?
        if byte = Ascii.newline ∨ byte = Ascii.semicolon then return ()
        else refuse "extra characters after command"

def takeLabel : Reader Bytes := do
  skipBlanks
  takeWhile fun byte =>
    byte != Ascii.semicolon && byte != Ascii.closeBrace && !isSpace byte

def takeFileName : Reader Bytes := do
  skipBlanks
  let name ← takeWhile (· != Ascii.newline)
  if name = [] then refuse "missing filename in r/R/w/W commands"
  let _ ← take?
  return name

/-- The lines of a text; a backslash joins lines and is left out otherwise. -/
def textLines : Nat → Bytes → Bytes × Nat
  | 0, _ => ([], 0)
  | _, [] => ([], 0)
  | bound + 1, byte :: rest =>
      if byte = Ascii.newline then ([], 1)
      else if byte = Ascii.backslash then
        match rest with
        | [] => ([], 1)
        | escaped :: rest =>
            let (text, count) := textLines bound rest
            let letters := (ascii "afnrtv").zip ([7, 12, 10, 13, 9, 11] : Bytes)
            ((letters.lookup escaped).getD escaped :: text, count + 2)
      else
        let (text, count) := textLines bound rest
        (byte :: text, count + 1)

def takeText : Reader Bytes := do
  skipBlanks
  match ← peek? with
  | none => refuse "expected \\ after `a', `c' or `i'"
  | some byte =>
      let mut literal : Bytes := []
      if byte = Ascii.backslash then
        let _ ← take?
        let state ← get
        let blanks := state.rest.takeWhile isBlankInLine
        match state.rest.drop blanks.length with
        | Ascii.newline :: rest =>
            set { state with rest, taken := state.taken + blanks.length + 1 }
        | first :: rest =>
            if blanks = [] then
              set { state with rest, taken := state.taken + 1 }
              literal := [first]
        | [] => pure ()
      let state ← get
      let named := nameBytes false false (state.rest.length + 1) state.rest
      let (text, count) := textLines (named.length + 1) named
      set { state with rest := named.drop count, taken := state.taken + count }
      if literal = [] ∧ state.rest = [] then return []
      return Bytes.line (literal ++ text)
where
  isBlankInLine (byte : UInt8) : Bool :=
    byte == Ascii.space || byte == Ascii.tab

/-- The parts of a replacement.  `text` is the text so far, in reverse.  The number bounds the
length. -/
def replacementParts (text : Bytes) : Nat → Bytes → List Part
  | 0, _ => []
  | _, [] => flush text
  | _, [Ascii.backslash] => flush (Ascii.backslash :: text)
  | bound + 1, Ascii.backslash :: letter :: rest =>
      let found := fun (part : Part) => flush text ++ part :: replacementParts [] bound rest
      if isDigit letter then found (.group (Bytes.digitValue letter))
      else
        match Char.ofNat letter.toNat with
        | 'U' => found (.casing .upper)
        | 'L' => found (.casing .lower)
        | 'u' => found (.casing .upperNext)
        | 'l' => found (.casing .lowerNext)
        | 'E' => found (.casing .plain)
        | 'n' => replacementParts (Ascii.newline :: text) bound rest
        | _ => replacementParts (letter :: text) bound rest
  | bound + 1, byte :: rest =>
      if byte = Ascii.ampersand then
        flush text ++ .group 0 :: replacementParts [] bound rest
      else replacementParts (byte :: text) bound rest
where
  flush (text : Bytes) : List Part :=
    if text = [] then [] else [.text text.reverse]

structure Flags where
  all : Bool := false
  number : Option Nat := none
  prints : Bool := false
  folded : Bool := false
  multiline : Bool := false
  performs : Bool := false
  file : Option Bytes := none

def takeFlags : Nat → Flags → Reader Flags
  | 0, flags => return flags
  | bound + 1, flags => do
      match ← peek? with
      | none => return flags
      | some byte =>
          if byte = Ascii.closeBrace ∨ byte = Ascii.hash then return flags
          else if isDigit byte then
            let number ← takeNumber
            if number = 0 then refuse "number option to `s' command may not be zero"
            if flags.number.isSome then refuse "multiple number options to `s' command"
            takeFlags bound { flags with number := some number }
          else
            let _ ← take?
            match Char.ofNat byte.toNat with
            | '\n' | ';' => return flags
            | 'g' =>
                if flags.all then refuse "multiple `g' options to `s' command"
                takeFlags bound { flags with all := true }
            | 'p' =>
                if flags.prints then refuse "multiple `p' options to `s' command"
                takeFlags bound { flags with prints := true }
            | 'i' | 'I' => takeFlags bound { flags with folded := true }
            | 'm' | 'M' => takeFlags bound { flags with multiline := true }
            | 'e' => takeFlags bound { flags with performs := true }
            | 'w' => return { flags with file := some (← takeFileName) }
            | ' ' | '\t' | '\r' => takeFlags bound flags
            | _ => refuse "unknown option to `s'"

def takeSubstitution : Reader Action := do
  match ← take? with
  | none => refuse "unterminated `s' command"
  | some delimiter =>
      let missing := "unterminated `s' command"
      let pattern ← takeDelimited delimiter true missing
      let replacement ← takeDelimited delimiter false missing
      let flags ← takeFlags 1000 {}
      let (pattern, groups) ← compile pattern flags.folded flags.multiline
      let replacement := nameBytes true true (replacement.length + 1) replacement
      let parts := replacementParts [] (replacement.length + 1) replacement
      let greatest := (parts.map fun
        | .group number => number
        | _ => 0).foldl max 0
      if groups < greatest then
        refuseText (ascii "invalid reference \\" ++ .ofNat greatest ++
          ascii " on `s' command's RHS")
      return .substitute
        { pattern, parts, all := flags.all, number := flags.number.getD 1, prints := flags.prints
          performs := flags.performs, file := flags.file }

def translationBytes : Bytes → Bytes
  | first :: second :: rest =>
      if first ≠ Ascii.backslash then first :: translationBytes (second :: rest)
      else if second = Ascii.backslash then Ascii.backslash :: translationBytes rest
      else if second = 110 then Ascii.newline :: translationBytes rest
      else first :: translationBytes (second :: rest)
  | rest => rest

def takeTranslation : Reader Action := do
  match ← take? with
  | none => refuse "unterminated `y' command"
  | some delimiter =>
      let missing := "unterminated `y' command"
      let source ← takeDelimited delimiter false missing
      let target ← takeDelimited delimiter false missing
      let clean := fun (text : Bytes) => translationBytes (nameBytes true false (text.length + 1) text)
      let source := clean source
      let target := clean target
      if source.length ≠ target.length then
        refuse "strings for `y' command are different lengths"
      endOfCommand
      return .translate (source.zip target)

def takeOptionalNumber : Reader (Option Nat) := do
  skipBlanks
  let digits ← takeWhile isDigit
  endOfCommand
  return if digits = [] then none else some (Bytes.valueOf digits)

def action (letter : UInt8) : Reader Action := do
  let simple := fun (action : Action) => do
    endOfCommand
    return action
  match Char.ofNat letter.toNat with
  | 'a' => return .append (← takeText)
  | 'i' => return .insert (← takeText)
  | 'c' => return .change (← takeText)
  | ':' =>
      let name ← takeLabel
      if name = [] then refuse "\":\" lacks a label"
      simple (.label name)
  | 'b' => simple (.jump (← takeLabel))
  | 't' => simple (.jumpIfChanged (← takeLabel))
  | 'T' => simple (.jumpUnlessChanged (← takeLabel))
  | 'd' => simple .delete
  | 'D' => simple .deleteFirst
  | 'g' => simple .takeHeld
  | 'G' => simple .appendHeld
  | 'h' => simple .hold
  | 'H' => simple .appendHold
  | 'x' => simple .exchange
  | 'l' => return .list (← takeOptionalNumber)
  | 'n' => simple .next
  | 'N' => simple .appendNext
  | 'p' => simple .print
  | 'P' => simple .printFirst
  | 'q' => return .quit ((← takeOptionalNumber).getD 0)
  | 'Q' => return .quitSilently ((← takeOptionalNumber).getD 0)
  | 'r' => return .readFile (← takeFileName)
  | 'R' => return .readLine (← takeFileName)
  | 'w' => return .writeFile (← takeFileName)
  | 'W' => return .writeFirst (← takeFileName)
  | 's' => takeSubstitution
  | 'y' => takeTranslation
  | '=' => simple .number
  | 'F' => simple .fileName
  | 'z' => simple .empty
  | 'e' =>
      skipBlanks
      let command ← takeWhile (· != Ascii.newline)
      let _ ← take?
      return .perform command
  | 'v' =>
      let _ ← takeLabel
      simple .nothing
  | _ => refuseText (ascii "unknown command: `" ++ letter :: ascii "'")

def skipGaps : Reader Unit := do
  let _ ← takeWhile fun byte => isSpace byte || byte == Ascii.semicolon

/-- Commands up to the end of a block or of the script.  The first of the two numbers is the place
of the next command. -/
def commands : Nat → Nat → Reader (List Command)
  | 0, _ => return []
  | bound + 1, place => do
      skipGaps
      match ← peek? with
      | none =>
          match (← get).blocks with
          | [] => return []
          | opened :: _ =>
              throw
                { place := some opened, asWhole := true, message := ascii "unmatched `\x7b'" }
      | some Ascii.hash =>
          let _ ← takeWhile (· != Ascii.newline)
          commands bound place
      | some Ascii.closeBrace =>
          let _ ← take?
          if (← get).blocks = [] then refuse "unexpected `\x7d'"
          return []
      | some _ =>
          let selector ← selector
          skipBlanks
          match ← take? with
          | none => refuse "missing command"
          | some Ascii.openBrace =>
              modify fun state => { state with blocks := state.taken :: state.blocks }
              let inner ← commands bound (place + 1)
              modify fun state => { state with blocks := state.blocks.tail }
              endOfCommand
              let stop := place + inner.length + 2
              let rest ← commands bound stop
              return { selector, action := .block stop } :: inner ++
                { selector := {}, action := .blockEnd } :: rest
          | some Ascii.closeBrace => refuse "unexpected `\x7d'"
          | some letter =>
              if letter = Ascii.colon ∧ selector.first.isSome then
                refuse ": doesn't want any addresses"
              let action ← action letter
              let rest ← commands bound (place + 1)
              return { selector, action } :: rest

def labelPlace? (script : List Command) (name : Bytes) : Option Nat :=
  script.findIdx? fun command =>
    match command.action with
    | .label found => found == name
    | _ => false

def strayLabel? (script : List Command) : Option Bytes :=
  script.findSome? fun command =>
    match command.action with
    | .jump name | .jumpIfChanged name | .jumpUnlessChanged name =>
        if name ≠ [] ∧ (labelPlace? script name).isNone then some name else none
    | _ => none

def read (extended : Bool) (text : Bytes) : Except Fault (List Command) := do
  let (script, _) ← (commands (text.length + 1) 0).run { rest := text, extended }
  match strayLabel? script with
  | some name =>
      .error { place := none, message := ascii "can't find label for jump to `" ++ name ++ ascii "'" }
  | none => return script

end Rpn.Tool.Sed

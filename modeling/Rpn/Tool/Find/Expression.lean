import Rpn.Host.Mode
import Rpn.Shell.Pattern
import Rpn.Text.Regex.Reader
import Rpn.Tool.Tree

/-! Expressions that choose files and say what is done with them.  Only serves the test environment.
-/

namespace Rpn.Tool.Find

open Host Text

/-- A number with a sign that makes it a bound. -/
structure Range where
  sign : Ordering
  number : Nat

def Range.holds (range : Range) (value : Nat) : Bool :=
  compare value range.number == range.sign

/-- What permissions are asked for: exactly some, all of some, or any of some. -/
inductive Permission where
  | exactly (mode : Nat)
  | all (mode : Nat)
  | some (mode : Nat)

inductive Stamp where
  | modified
  | accessed
  deriving DecidableEq

/-- How a command is run: for each file, in the folder of the file, or for many files at once.  A
`place` tells such commands apart. -/
structure Launch where
  command : List Bytes
  inFolder : Bool := false

inductive Expression where
  | always
  | never
  | negation (inner : Expression)
  | conjunction (first second : Expression)
  | disjunction (first second : Expression)
  | sequence (first second : Expression)
  | kind (letters : Bytes) (ofTarget : Bool)
  | name (pattern : Shell.Pattern) (folded : Bool)
  | path (pattern : Shell.Pattern) (folded : Bool)
  | regex (matcher : Regex.Matcher)
  | size (range : Range) (unit : Nat)
  | empty
  | permission (permission : Permission)
  | newer (stamp : Stamp) (time : Nat)
  | age (stamp : Stamp) (range : Range) (unit : Nat)
  | links (range : Range)
  | node (range : Range)
  | access (letter : UInt8)
  | prune
  | quit
  | print (ending : UInt8)
  | format (format : Bytes)
  | delete
  | each (launch : Launch)
  | many (place : Nat) (launch : Launch)

/-- Options that hold for the whole search. -/
structure Settings where
  most : Option Nat := none
  least : Nat := 0
  depthFirst : Bool := false
  acts : Bool := false
  many : Nat := 0
  lastPattern : Option Bytes := none

structure Source where
  rest : List Bytes
  settings : Settings := {}

abbrev Reader := StateT Source Run

def next? : Reader (Option Bytes) := do
  match (← get).rest with
  | [] => return none
  | word :: rest =>
      modify fun source => { source with rest }
      return some word

def argument (predicate : Bytes) : Reader Bytes := do
  match ← next? with
  | some word => return word
  | none => Run.fail (ascii "missing argument to `" ++ predicate ++ ascii "'")

def change (update : Settings → Settings) : Reader Unit :=
  modify fun source => { source with settings := update source.settings }

def range? (text : Bytes) : Option (Range × Bytes) := do
  let (sign, digits) := match text with
    | Ascii.plus :: rest => (Ordering.gt, rest)
    | Ascii.minus :: rest => (Ordering.lt, rest)
    | rest => (Ordering.eq, rest)
  let number := digits.takeWhile isDigit
  if number = [] then none
  return ({ sign, number := Bytes.valueOf number }, digits.drop number.length)

def takeRange (predicate : Bytes) : Reader Range := do
  let text ← argument predicate
  match range? text with
  | some (range, []) => return range
  | _ =>
      Run.fail (ascii "invalid argument `" ++ text ++ ascii "' to `" ++ predicate ++ ascii "'")

def takeDepth (predicate : Bytes) : Reader Nat := do
  let text ← argument predicate
  match Bytes.toNat? text with
  | some number => return number
  | none =>
      Run.fail (ascii "Expected a positive decimal integer argument to " ++ predicate ++
        ascii ", but got " ++ Quoting.always text)

def takePattern (predicate : Bytes) (folded : Bool) : Reader Shell.Pattern := do
  let text ← argument predicate
  change fun settings => { settings with lastPattern := some predicate }
  return Shell.Pattern.ofText (if folded then text.map toLower else text)

def takeSize (predicate : Bytes) : Reader Expression := do
  let text ← argument predicate
  match range? text with
  | some (range, unit) =>
      let units : List (String × Nat) :=
        [ ("", 512), ("b", 512), ("c", 1), ("w", 2), ("k", 1024), ("M", 1048576),
          ("G", 1073741824) ]
      match units.find? fun entry => ascii entry.1 == unit with
      | some (_, size) => return .size range size
      | none => Run.fail (ascii "invalid -size type `" ++ unit ++ ascii "'")
  | none =>
      match text.getLast? with
      | some letter => Run.fail (ascii "invalid -size type `" ++ letter :: ascii "'")
      | none => Run.fail (ascii "invalid null argument to -size")

def takeKind (predicate : Bytes) (ofTarget : Bool) : Reader Expression := do
  let text ← argument predicate
  let letters := text.splitOn Ascii.comma
  if letters.all fun letter => letter.length = 1 ∧ (ascii "bcdpflsD").contains (letter.headD 0) then
    return .kind letters.flatten ofTarget
  else if text = [] then
    Run.fail (ascii "Arguments to " ++ predicate ++ ascii " should contain at least one letter")
  else Run.fail (ascii "Unknown argument to " ++ predicate ++ ascii ": " ++ text)

def takePermission (predicate : Bytes) : Reader Expression := do
  let text ← argument predicate
  let (make, modeText) := match text with
    | Ascii.minus :: rest => (Permission.all, rest)
    | Ascii.slash :: rest => (Permission.some, rest)
    | rest => (Permission.exactly, rest)
  match Mode.parse? modeText with
  | some changes => return .permission (make (Mode.applyAll 0 false 0 changes))
  | none => Run.fail (ascii "invalid mode " ++ Quoting.always text)

/-- An expression in which a plus or a question mark alone repeats, with the operators as the plain
dialect has them. -/
def emacsToPlain : Nat → Bytes → Bytes
  | 0, _ => []
  | _, [] => []
  | bound + 1, byte :: rest =>
      if byte = Ascii.backslash then
        match rest with
        | letter :: rest => byte :: letter :: emacsToPlain bound rest
        | [] => [byte]
      else if byte = Ascii.openBracket then
        let length := Regex.setLength (rest.length + 1) true rest
        byte :: rest.take length ++ emacsToPlain bound (rest.drop length)
      else if byte = Ascii.plus ∨ byte = Ascii.question then
        Ascii.backslash :: byte :: emacsToPlain bound rest
      else byte :: emacsToPlain bound rest

def takeRegex (predicate : Bytes) (folded : Bool) : Reader Expression := do
  let text ← argument predicate
  let text := emacsToPlain (text.length + 1) text
  match Regex.read { folded } text with
  | .ok (regex, _) =>
      return .regex
        (Regex.sequence (.check .textStart) (.sequence regex (.check .textEnd))).matcher
  | .error fault =>
      Run.fail (ascii "failed to compile regular expression '" ++ text ++ ascii "': " ++
        fault.message)

def stampOf (stamp : Stamp) (node : Node) : Nat :=
  match stamp with
  | .modified => node.modified
  | .accessed => node.accessed

def takeNewer (predicate : Bytes) (stamp : Stamp) : Reader Expression := do
  let text ← argument predicate
  match ← Act.examine text with
  | .ok (_, node) => return .newer stamp node.modified
  | .error fault => Run.fail (Quoting.always text ++ ascii ": " ++ fault.message)

def acts : Reader Unit :=
  change fun settings => { settings with acts := true }

def commandWords : List Bytes → List Bytes → Option (List Bytes × Bool × List Bytes)
  | _, [] => none
  | words, word :: rest =>
      if word = [Ascii.semicolon] then some (words.reverse, false, rest)
      else if word = [Ascii.plus] ∧ words.head? = some (ascii "\x7b\x7d") then
        some (words.tail.reverse, true, rest)
      else commandWords (word :: words) rest

def takeCommand (predicate : Bytes) (inFolder : Bool) : Reader Expression := do
  acts
  match commandWords [] (← get).rest with
  | none | some ([], _, _) =>
      Run.fail (ascii "missing argument to `" ++ predicate ++ ascii "'")
  | some (command, many, rest) =>
      modify fun source => { source with rest }
      let launch : Launch := { command, inFolder }
      if many then
        let place := (← get).settings.many
        change fun settings => { settings with many := place + 1 }
        return .many place launch
      else return .each launch

def predicate (word : Bytes) : Reader Expression := do
  let age := fun (stamp : Stamp) (unit : Nat) => do
    return Expression.age stamp (← takeRange word) unit
  let setting := fun (update : Settings → Settings) => do
    change update
    return Expression.always
  let printing := fun (expression : Expression) => do
    acts
    return expression
  match String.ofList (word.map fun byte => Char.ofNat byte.toNat) with
  | "-true" | "-noleaf" | "-warn" | "-nowarn" | "-mount" | "-xdev" | "-follow"
  | "-ignore_readdir_race" | "-noignore_readdir_race" => return .always
  | "-false" => return .never
  | "-name" => return .name (← takePattern word false) false
  | "-iname" => return .name (← takePattern word true) true
  | "-path" | "-wholename" => return .path (← takePattern word false) false
  | "-ipath" | "-iwholename" => return .path (← takePattern word true) true
  | "-regex" => takeRegex word false
  | "-iregex" => takeRegex word true
  | "-type" => takeKind word false
  | "-xtype" => takeKind word true
  | "-size" => takeSize word
  | "-empty" => return .empty
  | "-perm" => takePermission word
  | "-mtime" | "-ctime" => age .modified 86400
  | "-atime" => age .accessed 86400
  | "-mmin" | "-cmin" => age .modified 60
  | "-amin" => age .accessed 60
  | "-newer" | "-cnewer" => takeNewer word .modified
  | "-anewer" => takeNewer word .accessed
  | "-links" => return .links (← takeRange word)
  | "-inum" => return .node (← takeRange word)
  | "-readable" => return .access 114
  | "-writable" => return .access 119
  | "-executable" => return .access 120
  | "-prune" => return .prune
  | "-quit" => return .quit
  | "-maxdepth" =>
      let depth ← takeDepth word
      setting fun settings => { settings with most := some depth }
  | "-mindepth" =>
      let depth ← takeDepth word
      setting fun settings => { settings with least := depth }
  | "-depth" | "-d" => setting fun settings => { settings with depthFirst := true }
  | "-print" => printing (.print Ascii.newline)
  | "-print0" => printing (.print 0)
  | "-printf" =>
      let format ← argument word
      printing (.format format)
  | "-delete" =>
      change fun settings => { settings with depthFirst := true }
      printing .delete
  | "-help" | "--help" =>
      Run.sayLine (About.usage (ascii "find"))
      throw 0
  | "-version" | "--version" =>
      Run.sayLine (About.version (ascii "find"))
      throw 0
  | "-exec" => takeCommand word false
  | "-execdir" => takeCommand word true
  | _ =>
      match word.head? with
      | some Ascii.minus => Run.fail (ascii "unknown predicate `" ++ word ++ ascii "'")
      | _ =>
          Run.complain (ascii "paths must precede expression: `" ++ word ++ ascii "'")
          match (← get).settings.lastPattern with
          | some pattern =>
              Run.complain (ascii "possible unquoted pattern after predicate `" ++ pattern ++
                ascii "'?")
          | none => pure ()
          throw 1

def isOr (word : Bytes) : Bool :=
  word == ascii "-o" || word == ascii "-or"

def isAnd (word : Bytes) : Bool :=
  word == ascii "-a" || word == ascii "-and"

def isNot (word : Bytes) : Bool :=
  word == ascii "!" || word == ascii "-not"

def isClosing (word : Bytes) : Bool :=
  word == ascii ")"

def isComma (word : Bytes) : Bool :=
  word == ascii ","

mutual

/-- A predicate, a negation or an expression in parentheses; `before` is the operator that stands
before it. -/
def primary : Nat → Option Bytes → Reader Expression
  | 0, _ => return .always
  | bound + 1, before => do
      match ← next? with
      | none =>
          Run.fail (ascii "expected an expression after " ++ Quoting.always (before.getD []))
      | some word =>
          if isNot word then return .negation (← primary bound (some word))
          else if word = ascii "(" then
            let inner ← commas bound
            match ← next? with
            | some word =>
                if isClosing word then return inner
                else Run.fail (ascii "invalid expression")
            | none =>
                Run.fail (ascii ("invalid expression; I was expecting to find a ')' somewhere " ++
                  "but did not see one."))
          else if isOr word ∨ isAnd word ∨ isComma word then
            match before with
            | some before => Run.fail (ascii "expected an expression after " ++ Quoting.always before)
            | none =>
                Run.fail (ascii "invalid expression; you have used a binary operator " ++
                  Quoting.always word ++ ascii " with nothing before it.")
          else if isClosing word then
            match before with
            | some before => Run.fail (ascii "expected an expression between " ++
                Quoting.always before ++ ascii " and ')'")
            | none => Run.fail (ascii "invalid expression; empty parentheses are not allowed.")
          else predicate word

def conjunctions : Nat → Option Bytes → Reader Expression
  | 0, _ => return .always
  | bound + 1, before => do
      let first ← primary bound before
      match (← get).rest.head? with
      | none => return first
      | some word =>
          if isOr word ∨ isClosing word ∨ isComma word then return first
          else if isAnd word then
            let _ ← next?
            return .conjunction first (← conjunctions bound (some word))
          else return .conjunction first (← conjunctions bound none)

def disjunctions : Nat → Option Bytes → Reader Expression
  | 0, _ => return .always
  | bound + 1, before => do
      let first ← conjunctions bound before
      match (← get).rest.head? with
      | some word =>
          if isOr word then
            let _ ← next?
            return .disjunction first (← disjunctions bound (some word))
          else return first
      | none => return first

def commas : Nat → Reader Expression
  | 0 => return .always
  | bound + 1 => do
      let first ← disjunctions bound none
      match (← get).rest.head? with
      | some word =>
          if isComma word then
            let _ ← next?
            return .sequence first (← commas bound)
          else return first
      | none => return first

end

def read (arguments : List Bytes) : Run (Expression × Settings) := do
  let bound := 4 * arguments.length + 8
  let (expression, source) ←
    if arguments = [] then pure (Expression.always, ({ rest := [] } : Source))
    else (commas bound).run { rest := arguments }
  match source.rest with
  | [] =>
      let print := Expression.print Ascii.newline
      let whole := if source.settings.acts then expression else .conjunction expression print
      return (whole, source.settings)
  | _ => Run.fail (ascii "you have too many ')'")

end Rpn.Tool.Find

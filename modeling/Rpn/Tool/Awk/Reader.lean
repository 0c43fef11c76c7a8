import Rpn.Text.Regex.Reader
import Rpn.Tool.Awk.Syntax
import Rpn.Tool.Awk.Token
import Rpn.Tool.Awk.Value

/-! Reading programs.  Only serves the test environment. -/

namespace Rpn.Tool.Awk

open Text

/-- The tokens that are left, and what surrounds them: whether a function or a rule is read, in how
many loops, and whether a greater sign tells where to print.  `known` are the
variables so far, and `calls` the functions that were called, with the number of their arguments and
the line. -/
structure Source where
  rest : List Placed
  inFunction : Bool := false
  loops : Nat := 0
  isRule : Bool := false
  printing : Bool := false
  known : List Bytes := []
  calls : List (Bytes × Nat × Nat) := []

abbrev Reader := StateT Source (Except Flaw)

namespace Reader

/-! Tokens. -/

def peek : Reader Token := do
  return ((← get).rest.head?.map (·.token)).getD .finish

def peekSecond : Reader Token := do
  return ((← get).rest[1]?.map (·.token)).getD .finish

def advance : Reader Unit :=
  modify fun source => { source with rest := source.rest.tail }

def line : Reader Nat := do
  return ((← get).rest.head?.map (·.line)).getD 1

def fail {α : Type} (message : Bytes) : Reader α := do
  throw { line := some (← line), message }

def refuse {α : Type} : Reader α := do
  match (← get).rest.head? with
  | some { token := .finish, line, .. } =>
      throw { line := some (line + 1), message := ascii "missing \x7d near end of file" }
  | some { token := .newline, .. } => fail (ascii "syntax error at or near end of line")
  | some placed =>
      if placed.token = .symbol ")" then fail (ascii "extra ')'")
      else fail (ascii "syntax error at or near " ++ placed.shown)
  | none => fail (ascii "syntax error")

def isSymbol (text : String) : Reader Bool := do
  return (← peek) == .symbol text

def isKeyword (word : String) : Reader Bool := do
  return (← peek) == .keyword word

def takeSymbol (text : String) : Reader Bool := do
  if ← isSymbol text then
    advance
    return true
  else return false

def expectSymbol (text : String) : Reader Unit := do
  if !(← takeSymbol text) then refuse

/-- Skip ends of lines.  The number bounds how many there are. -/
def skipNewlines : Reader Unit :=
  modify fun source => { source with rest := source.rest.dropWhile (·.token = .newline) }

def skipTerminators : Reader Unit :=
  modify fun source => { source with
    rest := source.rest.dropWhile fun placed =>
      placed.token = .newline || placed.token = .symbol ";" }

def takeName : Reader Bytes := do
  match ← peek with
  | .name name =>
      advance
      return name
  | _ => refuse

/-! Regular expressions. -/

def dialect : Regex.Dialect :=
  { extended := true, escapes := true, controls := true, shorthands := false, lenient := true }

def regexReason : Regex.Fault → String
  | .unmatchedParenthesis => "missing ')'"
  | .unmatchedClosing => "extra ')'"
  | .unmatchedBracket | .nothing => "bad class -- [], [^] or ["
  | _ => "syntax error ^* or ^+"

def readRegex (text : Bytes) : Except Bytes Regex.Matcher :=
  match Regex.read dialect text with
  | .ok (regex, _) => .ok regex.matcher
  | .error fault =>
      .error (ascii "regular expression compile failed (" ++ ascii (regexReason fault) ++
        ascii ")\n" ++ text)

/-! Expressions. -/

def assignment? : Token → Option (Option Operator)
  | .symbol "=" => some none
  | .symbol "+=" => some (some .add)
  | .symbol "-=" => some (some .subtract)
  | .symbol "*=" => some (some .multiply)
  | .symbol "/=" => some (some .divide)
  | .symbol "%=" => some (some .modulo)
  | .symbol "^=" => some (some .power)
  | _ => none

def isPlace : Expression → Bool
  | .name _ | .element _ _ | .field _ => true
  | _ => false

def comparison? (printing : Bool) : Token → Option Comparison
  | .symbol "<" => some .less
  | .symbol "<=" => some .lessOrEqual
  | .symbol "==" => some .equal
  | .symbol "!=" => some .notEqual
  | .symbol ">" => if printing then none else some .greater
  | .symbol ">=" => some .greaterOrEqual
  | _ => none

def beginsOperand : Token → Bool
  | .number _ | .literal _ | .name _ | .function _ | .builtin _ | .regex _ => true
  | .symbol text => ["$", "(", "++", "--", "!", "-", "+"].contains text
  | .keyword word => word == "getline"
  | _ => false

def joins : Token → Bool
  | .symbol text => ["$", "(", "++", "--"].contains text
  | .keyword _ => false
  | token => beginsOperand token

def withPrinting {α : Type} (printing : Bool) (inner : Reader α) : Reader α := do
  let before := (← get).printing
  modify fun source => { source with printing }
  let result ← inner
  modify fun source => { source with printing := before }
  return result

def enclosed {α : Type} (inner : Reader α) : Reader α :=
  withPrinting false inner

def asRegex : Expression → Reader Expression
  | .text source => do
      match readRegex source with
      | .ok matcher => return .regex matcher
      | .error message => fail message
  | pattern => return pattern

mutual

def expression : Nat → Reader Expression
  | 0 => refuse
  | bound + 1 => do
      let test ← disjunction bound
      if ← takeSymbol "?" then
        skipNewlines
        let yes ← expression bound
        skipNewlines
        expectSymbol ":"
        skipNewlines
        let no ← expression bound
        return .choice test yes no
      else return test

def disjunction : Nat → Reader Expression
  | 0 => refuse
  | bound + 1 => do
      let first ← conjunction bound
      moreDisjunctions bound first

def moreDisjunctions : Nat → Expression → Reader Expression
  | 0, first => return first
  | bound + 1, first => do
      if ← takeSymbol "||" then
        skipNewlines
        let second ← conjunction bound
        moreDisjunctions bound (.either first second)
      else return first

def conjunction : Nat → Reader Expression
  | 0 => refuse
  | bound + 1 => do
      let first ← membership bound
      moreConjunctions bound first

def moreConjunctions : Nat → Expression → Reader Expression
  | 0, first => return first
  | bound + 1, first => do
      if ← takeSymbol "&&" then
        skipNewlines
        let second ← membership bound
        moreConjunctions bound (.both first second)
      else return first

def membership : Nat → Reader Expression
  | 0 => refuse
  | bound + 1 => do
      let first ← matching bound
      moreMemberships bound first

def moreMemberships : Nat → Expression → Reader Expression
  | 0, first => return first
  | bound + 1, first => do
      if ← isKeyword "in" then
        advance
        let table ← takeName
        let index := match first with
          | .several items => items
          | single => [single]
        moreMemberships bound (.contains index table)
      else return first

def matching : Nat → Reader Expression
  | 0 => refuse
  | bound + 1 => do
      let first ← comparison bound
      moreMatches bound first

def moreMatches : Nat → Expression → Reader Expression
  | 0, first => return first
  | bound + 1, first => do
      match ← peek with
      | .symbol "~" =>
          advance
          let pattern ← asRegex (← comparison bound)
          moreMatches bound (.matching false first pattern)
      | .symbol "!~" =>
          advance
          let pattern ← asRegex (← comparison bound)
          moreMatches bound (.matching true first pattern)
      | _ => return first

def comparison : Nat → Reader Expression
  | 0 => refuse
  | bound + 1 => do
      let first ← concatenation bound
      moreComparisons bound first

def moreComparisons : Nat → Expression → Reader Expression
  | 0, first => return first
  | bound + 1, first => do
      match comparison? (← get).printing (← peek) with
      | some operator =>
          advance
          let second ← concatenation bound
          moreComparisons bound (.comparison operator first second)
      | none => return first

def concatenation : Nat → Reader Expression
  | 0 => refuse
  | bound + 1 => do
      let first ← sum bound
      moreParts bound first

def moreParts : Nat → Expression → Reader Expression
  | 0, first => return first
  | bound + 1, first => do
      if joins (← peek) then
        let second ← sum bound
        moreParts bound (.concatenation first second)
      else return first

def sum : Nat → Reader Expression
  | 0 => refuse
  | bound + 1 => do
      let first ← product bound
      moreTerms bound first

def moreTerms : Nat → Expression → Reader Expression
  | 0, first => return first
  | bound + 1, first => do
      match ← peek with
      | .symbol "+" =>
          advance
          let second ← product bound
          moreTerms bound (.arithmetic .add first second)
      | .symbol "-" =>
          advance
          let second ← product bound
          moreTerms bound (.arithmetic .subtract first second)
      | _ => return first

def product : Nat → Reader Expression
  | 0 => refuse
  | bound + 1 => do
      let first ← signed bound
      moreFactors bound first

def moreFactors : Nat → Expression → Reader Expression
  | 0, first => return first
  | bound + 1, first => do
      let operator? := match ← peek with
        | .symbol "*" => some Operator.multiply
        | .symbol "/" => some .divide
        | .symbol "%" => some .modulo
        | _ => none
      match operator? with
      | some operator =>
          advance
          let second ← signed bound
          moreFactors bound (.arithmetic operator first second)
      | none => return first

def signed : Nat → Reader Expression
  | 0 => refuse
  | bound + 1 => do
      match ← peek with
      | .symbol "!" =>
          advance
          return .negation (← signed bound)
      | .symbol "-" =>
          advance
          return .signed true (← signed bound)
      | .symbol "+" =>
          advance
          return .signed false (← signed bound)
      | _ =>
          let first ← power bound
          morePipes bound first

def morePipes : Nat → Expression → Reader Expression
  | 0, first => return first
  | bound + 1, first => do
      if (← isSymbol "|") && (← peekSecond) == .keyword "getline" then
        advance
        advance
        let target ← place? bound
        morePipes bound (.readCommand target first)
      else return first

def power : Nat → Reader Expression
  | 0 => refuse
  | bound + 1 => do
      let base ← stepped bound
      if ← takeSymbol "^" then
        match ← peek with
        | .symbol "-" =>
            advance
            return .arithmetic .power base (.signed true (← power bound))
        | .symbol "+" =>
            advance
            return .arithmetic .power base (← power bound)
        | .symbol "!" =>
            advance
            return .arithmetic .power base (.negation (← power bound))
        | _ => return .arithmetic .power base (← power bound)
      else return base

def stepped : Nat → Reader Expression
  | 0 => refuse
  | bound + 1 => do
      match ← peek with
      | .symbol "++" =>
          advance
          return .step true true (← place bound)
      | .symbol "--" =>
          advance
          return .step true false (← place bound)
      | _ =>
          let operand ← primary bound
          if !isPlace operand then return operand
          match ← peek with
          | .symbol "++" =>
              advance
              return .step false true operand
          | .symbol "--" =>
              advance
              return .step false false operand
          | token =>
              match assignment? token with
              | some operator =>
                  advance
                  skipNewlines
                  return .assign operator operand (← expression bound)
              | none => return operand

def place : Nat → Reader Expression
  | 0 => refuse
  | bound + 1 => do
      match ← place? bound with
      | some found => return found
      | none => refuse

def place? : Nat → Reader (Option Expression)
  | 0 => return none
  | bound + 1 => do
      match ← peek with
      | .name name =>
          advance
          modify fun source => { source with
            known := if source.known.contains name then source.known else name :: source.known }
          if ← takeSymbol "[" then
            let index ← enclosed (expressions bound)
            expectSymbol "]"
            return some (.element name index)
          else return some (.name name)
      | .symbol "$" =>
          advance
          return some (.field (← fieldIndex bound))
      | _ => return none

def fieldIndex : Nat → Reader Expression
  | 0 => refuse
  | bound + 1 => do
      match ← peek with
      | .symbol "++" =>
          advance
          return .step true true (← place bound)
      | .symbol "--" =>
          advance
          return .step true false (← place bound)
      | .symbol "-" =>
          advance
          return .signed true (← fieldIndex bound)
      | .symbol "+" =>
          advance
          fieldIndex bound
      | .symbol "!" =>
          advance
          return .negation (← fieldIndex bound)
      | _ => primary bound

def primary : Nat → Reader Expression
  | 0 => refuse
  | bound + 1 => do
      match ← peek with
      | .number text =>
          advance
          return .number (Value.readNumber text)
      | .literal value =>
          advance
          return .text value
      | .regex source =>
          match readRegex source with
          | .ok matcher =>
              advance
              return .regex matcher
          | .error message => fail message
      | .function name =>
          advance
          if (← get).known.contains name then return .name name
          expectSymbol "("
          let arguments ← argumentsUntilClose bound
          let place ← line
          modify fun source => { source with
            calls := (name, arguments.length, place) :: source.calls }
          return .call name arguments
      | .builtin name =>
          advance
          if ← takeSymbol "(" then
            let arguments ← argumentsUntilClose bound
            checkCount name arguments.length
            return .builtin name arguments
          else if name = ascii "length" then return .builtin name []
          else refuse
      | .keyword "getline" =>
          advance
          let target ← place? bound
          if ← takeSymbol "<" then
            let file ← primary bound
            return .readFile target file
          else return .readMain target
      | .symbol "(" =>
          advance
          skipNewlines
          let items ← enclosed (expressions bound)
          skipNewlines
          expectSymbol ")"
          match items with
          | [single] => return .group single
          | items => return .several items
      | .symbol "-" =>
          advance
          return .signed true (← primary bound)
      | _ =>
          match ← place? bound with
          | some found => return found
          | none => refuse

def checkCount (name : Bytes) (count : Nat) : Reader Unit := do
  let bounds : List (String × Nat × Nat) :=
    [ ("length", 0, 1), ("substr", 2, 3), ("index", 2, 2), ("split", 2, 3), ("sub", 2, 3),
      ("gsub", 2, 3), ("match", 2, 2), ("sprintf", 1, 1000), ("sin", 1, 1), ("cos", 1, 1),
      ("atan2", 2, 2), ("exp", 1, 1), ("log", 1, 1), ("sqrt", 1, 1), ("int", 1, 1), ("rand", 0, 0),
      ("srand", 0, 1), ("tolower", 1, 1), ("toupper", 1, 1), ("system", 1, 1), ("close", 1, 1),
      ("fflush", 0, 1), ("strftime", 0, 3), ("mktime", 1, 1), ("systime", 0, 0) ]
  match bounds.find? fun entry => ascii entry.1 == name with
  | some (_, least, most) =>
      if count < least ∨ most < count then
        fail (ascii "wrong number of arguments in call to " ++ name)
  | none => return ()

def argumentsUntilClose : Nat → Reader (List Expression)
  | 0 => refuse
  | bound + 1 => do
      skipNewlines
      if ← takeSymbol ")" then return []
      let items ← enclosed (expressions bound)
      skipNewlines
      expectSymbol ")"
      return items

def expressions : Nat → Reader (List Expression)
  | 0 => refuse
  | bound + 1 => do
      let first ← expression bound
      if ← takeSymbol "," then
        skipNewlines
        return first :: (← expressions bound)
      else return [first]

end

/-! Statements. -/

def terminator : Reader Unit := do
  match ← peek with
  | .newline | .symbol ";" => advance
  | .symbol "\x7d" | .finish => return ()
  | _ => refuse

def isStatementEnd : Token → Bool
  | .newline | .finish => true
  | .symbol text => [";", "\x7d", ">", ">>", "|", ")"].contains text
  | _ => false

def sink? (bound : Nat) : Reader (Option (Sink × Expression)) := do
  let kind := match ← peek with
    | .symbol ">" => some Sink.file
    | .symbol ">>" => some .append
    | .symbol "|" => some .command
    | _ => none
  match kind with
  | none => return none
  | some kind =>
      advance
      let target ← withPrinting true (expression bound)
      return some (kind, target)

/-- The arguments of a statement that prints.  Parentheses around all of them are left out. -/
def printed (bound : Nat) : Reader (List Expression) := do
  if isStatementEnd (← peek) then return []
  match ← withPrinting true (expressions bound) with
  | [.several items] => return items
  | items => return items

def simple (bound : Nat) : Reader Statement := do
  match ← peek with
  | .keyword "print" =>
      advance
      let items ← printed bound
      return .print items (← sink? bound)
  | .keyword "printf" =>
      advance
      let items ← printed bound
      if items.isEmpty then refuse
      return .format items (← sink? bound)
  | .keyword "delete" =>
      advance
      let table ← takeName
      if ← takeSymbol "[" then
        let index ← expressions bound
        expectSymbol "]"
        return .delete table (some index)
      else return .delete table none
  | .keyword "next" =>
      if !(← get).isRule then fail (ascii "improper use of next")
      advance
      return .next
  | .keyword "nextfile" =>
      if !(← get).isRule then fail (ascii "improper use of nextfile")
      advance
      return .nextFile
  | .keyword "break" =>
      if (← get).loops = 0 then fail (ascii "break statement outside of loop")
      advance
      return .leave
  | .keyword "continue" =>
      if (← get).loops = 0 then fail (ascii "continue statement outside of loop")
      advance
      return .again
  | .keyword "exit" =>
      advance
      if isStatementEnd (← peek) then return .exit none
      return .exit (some (← expression bound))
  | .keyword "return" =>
      if !(← get).inFunction then fail (ascii "return outside function body")
      advance
      if isStatementEnd (← peek) then return .giveBack none
      return .giveBack (some (← expression bound))
  | _ => return .evaluate (← expression bound)

def enterLoop : Reader Unit :=
  modify fun source => { source with loops := source.loops + 1 }

def leaveLoop : Reader Unit :=
  modify fun source => { source with loops := source.loops - 1 }

mutual

def statement : Nat → Reader Statement
  | 0 => refuse
  | bound + 1 => do
      match ← peek with
      | .symbol "\x7b" =>
          let body ← block bound
          if ← isSymbol ";" then advance
          return body
      | .symbol ";" =>
          advance
          return .nothing
      | .keyword "if" =>
          advance
          expectSymbol "("
          skipNewlines
          let test ← expression bound
          skipNewlines
          expectSymbol ")"
          skipNewlines
          let yes ← statement bound
          let before ← get
          skipTerminators
          if ← isKeyword "else" then
            advance
            skipNewlines
            return .choose test yes (← statement bound)
          else
            set before
            return .choose test yes .nothing
      | .keyword "while" =>
          advance
          expectSymbol "("
          skipNewlines
          let test ← expression bound
          skipNewlines
          expectSymbol ")"
          if ← takeSymbol ";" then return .loop test .nothing
          skipNewlines
          enterLoop
          let body ← statement bound
          leaveLoop
          return .loop test body
      | .keyword "do" =>
          advance
          skipNewlines
          enterLoop
          let body ← statement bound
          leaveLoop
          skipTerminators
          if !(← isKeyword "while") then refuse
          advance
          expectSymbol "("
          skipNewlines
          let test ← expression bound
          skipNewlines
          expectSymbol ")"
          terminator
          return .loopAfter body test
      | .keyword "for" =>
          advance
          expectSymbol "("
          skipNewlines
          forLoop bound
      | _ =>
          let found ← simple bound
          terminator
          return found

def forLoop : Nat → Reader Statement
  | 0 => refuse
  | bound + 1 => do
      let upcoming : List Token := (← get).rest.map (·.token)
      match upcoming with
      | .name name :: .keyword "in" :: .name table :: .symbol ")" :: _ =>
          modify fun source => { source with rest := source.rest.drop 4 }
          let body ← loopBody bound
          return .each name table body
      | .symbol "(" :: .name name :: .keyword "in" :: .name table :: .symbol ")" ::
          .symbol ")" :: _ =>
          modify fun source => { source with rest := source.rest.drop 6 }
          let body ← loopBody bound
          return .each name table body
      | _ =>
          let start ← if ← isSymbol ";" then pure Statement.nothing else simple bound
          expectSymbol ";"
          skipNewlines
          let test ←
            if ← isSymbol ";" then pure none else pure (some (← expression bound))
          expectSymbol ";"
          skipNewlines
          let step ← if ← isSymbol ")" then pure Statement.nothing else simple bound
          skipNewlines
          expectSymbol ")"
          let body ← loopBody bound
          return .count start test step body

def loopBody : Nat → Reader Statement
  | 0 => refuse
  | bound + 1 => do
      if ← takeSymbol ";" then return .nothing
      skipNewlines
      enterLoop
      let body ← statement bound
      leaveLoop
      return body

def block : Nat → Reader Statement
  | 0 => refuse
  | bound + 1 => do
      expectSymbol "\x7b"
      let statements ← blockRest bound
      return .block statements

def blockRest : Nat → Reader (List Statement)
  | 0 => refuse
  | bound + 1 => do
      skipTerminators
      if ← takeSymbol "\x7d" then return []
      let first ← statement bound
      return first :: (← blockRest bound)

end

/-! Programs. -/

def parameters : Nat → List Bytes → Reader (List Bytes)
  | 0, _ => refuse
  | bound + 1, names => do
      skipNewlines
      if ← takeSymbol ")" then return names.reverse
      let name ← takeName
      if names.contains name then fail (name ++ ascii " is duplicated in argument list")
      skipNewlines
      if ← takeSymbol "," then parameters bound (name :: names)
      else
        expectSymbol ")"
        return (name :: names).reverse

def functionRest (bound : Nat) : Reader Function := do
  let name ← match ← peek with
    | .function name | .name name =>
        advance
        pure name
    | _ => refuse
  expectSymbol "("
  let names ← parameters bound []
  skipNewlines
  modify fun source => { source with inFunction := true, isRule := true }
  let body ← block bound
  modify fun source => { source with inFunction := false, isRule := false }
  return { name, parameters := names, body }

def body (bound : Nat) (isRule : Bool) : Reader Statement := do
  modify fun source => { source with isRule }
  let found ← block bound
  modify fun source => { source with isRule := false }
  return found

def rule (bound : Nat) : Reader Rule := do
  match ← peek with
  | .keyword "BEGIN" =>
      advance
      return { condition := .begin, body := some (← body bound false) }
  | .keyword "END" =>
      advance
      return { condition := .finish, body := some (← body bound false) }
  | .symbol "\x7b" => return { condition := .always, body := some (← body bound true) }
  | _ =>
      let first ← expression bound
      let condition ←
        if ← takeSymbol "," then
          skipNewlines
          pure (Condition.range first (← expression bound))
        else pure (.test first)
      if ← isSymbol "\x7b" then return { condition, body := some (← body bound true) }
      else return { condition, body := none }

def items : Nat → Program → Reader Program
  | 0, program => return program
  | bound + 1, program => do
      skipTerminators
      match ← peek with
      | .finish => return program
      | .symbol "\x7d" =>
          fail (ascii "extra '\x7d'")
      | .keyword "function" =>
          advance
          let made ← functionRest bound
          if program.functions.any (·.name == made.name) then
            fail (ascii "redefinition of " ++ made.name)
          items bound { program with functions := program.functions ++ [made] }
      | _ =>
          let made ← rule bound
          items bound { program with rules := program.rules ++ [made] }

end Reader

def callFlaw? (functions : List Function) (lastLine : Nat) : List (Bytes × Nat × Nat) → Option Flaw
  | [] => none
  | (name, count, line) :: rest =>
      match functions.find? (·.name == name) with
      | none =>
          let message := ascii "function " ++ name ++ ascii " never defined"
          some { line := some lastLine, message }
      | some function =>
          if function.parameters.length < count then
            let message := ascii "too many arguments in call to " ++ name
            some { line := some line, message }
          else callFlaw? functions lastLine rest

def Program.read (text : Bytes) : Except Flaw Program := do
  let tokens ← Token.read text
  let (program, source) ← (Reader.items (8 * tokens.length + 64) {}).run { rest := tokens }
  let lastLine := ((tokens.getLast?).map (·.line)).getD 1 + 1
  match callFlaw? program.functions lastLine source.calls.reverse with
  | some flaw => .error flaw
  | none => return program

end Rpn.Tool.Awk

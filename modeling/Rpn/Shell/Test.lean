import Rpn.Host.FileTest
import Rpn.Shell.Arithmetic

/-! Conditions that are given as arguments of a command.  Only serves the test environment. -/

namespace Rpn.Shell

open Host

/-- A condition.  A word holds if it is not empty, and a missing condition does not hold. -/
inductive Test where
  | missing
  | plain (text : Bytes)
  | unary (letter : UInt8) (operand : Bytes)
  | binary (left operator right : Bytes)
  | negate (test : Test)
  | both (left right : Test)
  | either (left right : Test)

namespace Test

/-! Reading. -/

inductive Sign where
  | ending
  | operand
  | negation
  | conjunction
  | disjunction
  | opening
  | closing
  | unary (letter : UInt8)
  | binary
  deriving DecidableEq, Repr

def binaryOperators : List Bytes :=
  ["=", "!=", "<", ">", "-eq", "-ne", "-ge", "-gt", "-le", "-lt", "-nt", "-ot", "-ef"].map ascii

def unaryLetters : Bytes := ascii "rwxefdcbpugkstznhOGLS"

def signOf (word : Bytes) : Sign :=
  if binaryOperators.contains word then .binary
  else
    match word with
    | [Ascii.exclamation] => .negation
    | [Ascii.openParenthesis] => .opening
    | [Ascii.closeParenthesis] => .closing
    | [Ascii.minus, letter] =>
        if letter = 97 then .conjunction
        else if letter = 111 then .disjunction
        else if unaryLetters.contains letter then .unary letter
        else .operand
    | _ => .operand

/-- What the first of some words is.  An operator without an operand after it, or with a binary
operator after it, is an operand itself. -/
def sign : List Bytes → Sign
  | [] => .ending
  | word :: rest =>
      match signOf word, rest with
      | .unary _, [] | .opening, [] => .operand
      | .unary letter, next :: _ :: _ =>
          if signOf next = .binary then .operand else .unary letter
      | found, _ => found

abbrev TestReader := Sign → List Bytes → Except Bytes (Test × List Bytes)

def readPrimary (inner : TestReader) : TestReader := fun first words => do
  match first with
  | .ending => return (.missing, words)
  | .opening =>
      let words := words.drop 1
      let next := sign words
      if next = .closing then return (.missing, words)
      else
        let (found, words) ← inner next words
        let words := words.drop 1
        if sign words = .closing then return (found, words)
        else .error (ascii "closing paren expected")
  | .unary letter =>
      match words.drop 1 with
      | [] => .error ([Ascii.minus, letter] ++ ascii ": argument expected")
      | operand :: rest => return (.unary letter operand, operand :: rest)
  | _ =>
      match words with
      | left :: operator :: rest =>
          if sign (operator :: rest) = .binary then
            match rest with
            | [] => .error (operator ++ ascii ": argument expected")
            | right :: rest => return (.binary left operator right, right :: rest)
          else return (.plain left, words)
      | left :: _ => return (.plain left, words)
      | [] => return (.missing, words)

def readNegated (inner : TestReader) : Nat → TestReader
  | 0, _, _ => .error (ascii "too many arguments")
  | bound + 1, first, words => do
      if first = .negation then
        let next := sign (words.drop 1)
        let words := if next = .ending then words else words.drop 1
        let (found, words) ← readNegated inner bound next words
        return (.negate found, words)
      else readPrimary inner first words

def readJoined (part : TestReader) (joint : Sign) (join : Test → Test → Test) :
    Nat → TestReader
  | 0, _, _ => .error (ascii "too many arguments")
  | bound + 1, first, words => do
      let (left, words) ← part first words
      if sign (words.drop 1) = joint then
        let words := words.drop 2
        let (right, words) ← readJoined part joint join bound (sign words) words
        return (join left right, words)
      else return (left, words)

def readWhole : Nat → TestReader
  | 0, _, _ => .error (ascii "too many arguments")
  | bound + 1, first, words =>
      let size := words.length + 2
      readJoined
        (readJoined (readNegated (readWhole bound) size) .conjunction .both size)
        .disjunction .either size first words

def readAll (first : Sign) (words : List Bytes) : Except Bytes Test := do
  match ← readWhole (words.length + 2) first words with
  | (_, operator :: _ :: _) => .error (operator ++ ascii ": unexpected operator")
  | (found, _) => return found

/-- Read the arguments of a command.  Three or four words are taken first as a comparison, as
something in parentheses or as a negation. -/
def read : Nat → List Bytes → Except Bytes Test
  | 0, _ => .error (ascii "too many arguments")
  | _, [] => .ok .missing
  | bound + 1, words =>
      match words with
      | [_, operator, _] =>
          if signOf operator = .binary then readAll .operand words else grouped bound words
      | [_, _, _, _] => grouped bound words
      | _ => readAll (sign words) words
where
  grouped (bound : Nat) (words : List Bytes) : Except Bytes Test :=
    if words.head? = some (ascii "(") ∧ words.getLast? = some (ascii ")") then
      let inner := (words.drop 1).dropLast
      readAll (sign inner) inner
    else if words.head? = some (ascii "!") then do
      return .negate (← read bound words.tail)
    else readAll (sign words) words

/-! The same in the extended language, where the number of words decides first. -/

def extendedBinaryOperators : List Bytes :=
  ascii "==" :: binaryOperators

def extendedUnaryLetters : Bytes := ascii "abcdefghknoprstuvwxzGLNORS"

def isExtendedBinary (word : Bytes) : Bool :=
  extendedBinaryOperators.contains word

def extendedUnary? : Bytes → Option UInt8
  | [Ascii.minus, letter] => if extendedUnaryLetters.contains letter then some letter else none
  | _ => none

def readTwo (first second : Bytes) : Except Bytes Test :=
  if first = ascii "!" then .ok (.negate (.plain second))
  else
    match extendedUnary? first with
    | some letter => .ok (.unary letter second)
    | none => .error (first ++ ascii ": unary operator expected")

def readThree (first second third : Bytes) : Except Bytes Test :=
  if isExtendedBinary second then .ok (.binary first second third)
  else if second = ascii "-a" then .ok (.both (.plain first) (.plain third))
  else if second = ascii "-o" then .ok (.either (.plain first) (.plain third))
  else if first = ascii "!" then do return .negate (← readTwo second third)
  else if first = ascii "(" ∧ third = ascii ")" then .ok (.plain second)
  else .error (second ++ ascii ": binary operator expected")

def readTerm : Nat → List Bytes → Except Bytes (Test × List Bytes)
  | 0, _ => .error (ascii "too many arguments")
  | _, [] => .error (ascii "argument expected")
  | bound + 1, first :: rest =>
      match rest with
      | operator :: right :: after =>
          if isExtendedBinary operator then .ok (.binary first operator right, after)
          else other bound first rest
      | _ => other bound first rest
where
  other (bound : Nat) (first : Bytes) (rest : List Bytes) : Except Bytes (Test × List Bytes) := do
    if first = ascii "!" then
      let (found, rest) ← readTerm bound rest
      return (.negate found, rest)
    else if first = ascii "(" then
      let (found, rest) ← readEither bound rest
      if rest.head? = some (ascii ")") then return (found, rest.tail)
      else .error (ascii "`)' expected")
    else
      match extendedUnary? first, rest with
      | some letter, operand :: rest => return (.unary letter operand, rest)
      | _, rest => return (.plain first, rest)
  readBoth : Nat → List Bytes → Except Bytes (Test × List Bytes)
    | 0, _ => .error (ascii "too many arguments")
    | bound + 1, words => do
        let (left, rest) ← readTerm bound words
        if rest.head? = some (ascii "-a") then
          let (right, rest) ← readBoth bound rest.tail
          return (.both left right, rest)
        else return (left, rest)
  readEither : Nat → List Bytes → Except Bytes (Test × List Bytes)
    | 0, _ => .error (ascii "too many arguments")
    | bound + 1, words => do
        let (left, rest) ← readBoth bound words
        if rest.head? = some (ascii "-o") then
          let (right, rest) ← readEither bound rest.tail
          return (.either left right, rest)
        else return (left, rest)

def readExtended (words : List Bytes) : Except Bytes Test :=
  match words with
  | [] => .ok .missing
  | [word] => .ok (.plain word)
  | [first, second] => readTwo first second
  | [first, second, third] => readThree first second third
  | [first, second, third, fourth] =>
      if first = ascii "!" then do return .negate (← readThree second third fourth)
      else if first = ascii "(" ∧ fourth = ascii ")" then readTwo second third
      else whole words
  | words => whole words
where
  whole (words : List Bytes) : Except Bytes Test := do
    match ← readTerm.readEither (words.length * 4 + 4) words with
    | (found, []) => return found
    | _ => .error (ascii "too many arguments")

/-! Holding. -/

def compareNumbers (operator : Bytes) (left right : Int) : Bool :=
  match Char.ofNat ((operator.getD 1 0).toNat), Char.ofNat ((operator.getD 2 0).toNat) with
  | 'e', _ => left == right
  | 'n', _ => left != right
  | 'l', 't' => left < right
  | 'l', _ => left ≤ right
  | 'g', 't' => right < left
  | _, _ => right ≤ left

/-- How the words of conditions are understood.  `known` answers conditions that are not about
files. -/
structure Manner where
  number : Bytes → Except Bytes Int
  missingIsOlder : Bool
  known : UInt8 → Bytes → Option Bool := fun _ _ => none

def integer? (text : Bytes) : Option Int :=
  match (text.dropWhile isBlank).reverse.dropWhile isBlank |>.reverse with
  | Ascii.minus :: digits => (Bytes.toNat? digits).map fun value => -(value : Int)
  | Ascii.plus :: digits | digits => (Bytes.toNat? digits).map fun value => (value : Int)

def decimal (text : Bytes) : Except Bytes Int :=
  match (integer? text).filter fun value => Arithmetic.wrap value = value with
  | some value => .ok value
  | none => .error (ascii "Illegal number: " ++ text)

def evaluateUnary (manner : Manner) (letter : UInt8) (operand : Bytes) :
    Act (Except Bytes Bool) := do
  match Char.ofNat letter.toNat with
  | 'z' => return .ok operand.isEmpty
  | 'n' => return .ok !operand.isEmpty
  | 't' =>
      match manner.number operand with
      | .error message => return .error message
      | .ok _ => return .ok false
  | 'a' => return .ok (← FileTest.ask 101 operand)
  | _ =>
      match manner.known letter operand with
      | some value => return .ok value
      | none => return .ok (← FileTest.ask letter operand)

def evaluateBinary (manner : Manner) (left operator right : Bytes) : Act (Except Bytes Bool) := do
  if operator = ascii "=" ∨ operator = ascii "==" then return .ok (left == right)
  else if operator = ascii "!=" then return .ok (left != right)
  else if operator = ascii "<" then return .ok (decide (left < right))
  else if operator = ascii ">" then return .ok (decide (right < left))
  else if ["-nt", "-ot", "-ef"].any (ascii · == operator) then
    return .ok (← FileTest.compare operator manner.missingIsOlder left right)
  else
    match manner.number left, manner.number right with
    | .ok first, .ok second => return .ok (compareNumbers operator first second)
    | .error message, _ | _, .error message => return .error message

def evaluate (manner : Manner) : Test → Act (Except Bytes Bool)
  | missing => return .ok false
  | plain text => return .ok !text.isEmpty
  | unary letter operand => evaluateUnary manner letter operand
  | binary left operator right => evaluateBinary manner left operator right
  | negate test => do
      match ← evaluate manner test with
      | .ok value => return .ok !value
      | .error message => return .error message
  | both left right => do
      match ← evaluate manner left, ← evaluate manner right with
      | .ok first, .ok second => return .ok (first && second)
      | .error message, _ | _, .error message => return .error message
  | either left right => do
      match ← evaluate manner left, ← evaluate manner right with
      | .ok first, .ok second => return .ok (first || second)
      | .error message, _ | _, .error message => return .error message

end Test

end Rpn.Shell

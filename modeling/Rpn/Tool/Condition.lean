import Rpn.Shell.Test
import Rpn.Tool.Tree

/-! A tool that says by its status whether a condition holds.  Only serves the test environment. -/

namespace Rpn.Tool

open Host

namespace Condition

abbrev Reader := StateT (List Bytes) (ExceptT Bytes Act)

def refuse {α : Type} (message : Bytes) : Reader α :=
  throw message

def binaryOperators : List Bytes :=
  ["=", "==", "!=", "-nt", "-ot", "-ef", "-eq", "-ne", "-lt", "-le", "-gt", "-ge"].map ascii

def isBinary (word : Bytes) : Bool :=
  binaryOperators.contains word

def isUnary (word : Bytes) : Bool :=
  match word with
  | [Ascii.minus, letter] => (ascii "erwxNOGkugsfdbcpStznLh").contains letter
  | _ => false

def isDashed (word : Bytes) : Bool :=
  match word with
  | [Ascii.minus, _] => true
  | _ => false

def integer (text : Bytes) : Except Bytes Int :=
  match Shell.Test.integer? text with
  | some value => .ok value
  | none => .error (ascii "invalid integer " ++ Quoting.plain text)

def manner : Shell.Test.Manner :=
  { number := integer, missingIsOlder := true }

def take (last : Bytes) : Reader Bytes := do
  match ← get with
  | [] => refuse (ascii "missing argument after " ++ Quoting.plain last)
  | word :: rest =>
      set rest
      return word

def lift (act : Act (Except Bytes Bool)) : Reader Bool := do
  match ← (monadLift act : ExceptT Bytes Act (Except Bytes Bool)) with
  | .ok value => return value
  | .error message => refuse message

def unary (last : Bytes) : Reader Bool := do
  let operator ← take last
  let operand ← take operator
  match operator with
  | [_, letter] => lift (Shell.Test.evaluateUnary manner letter operand)
  | _ => return false

def binary (last : Bytes) : Reader Bool := do
  let left ← take last
  let operator ← take left
  let right ← take operator
  lift (Shell.Test.evaluateBinary manner left operator right)

def oneWord (last : Bytes) : Reader Bool := do
  return !(← take last).isEmpty

def twoWords (last : Bytes) : Reader Bool := do
  match ← get with
  | first :: _ =>
      if first = ascii "!" then
        let _ ← take last
        return !(← oneWord first)
      else if isUnary first then unary last
      else if isDashed first then
        refuse (Quoting.plain first ++ ascii ": unary operator expected")
      else
        let words ← get
        refuse (ascii "missing argument after " ++ Quoting.plain (words.getLastD first))
  | [] => refuse (ascii "missing argument after " ++ Quoting.plain last)

def isJoint (word : Bytes) : Bool :=
  word == ascii "-a" || word == ascii "-o"

def threeWords (whole : Reader Bool) (last : Bytes) : Reader Bool := do
  match ← get with
  | first :: second :: third :: _ =>
      if isBinary second then binary last
      else if first = ascii "!" then
        let _ ← take last
        return !(← twoWords first)
      else if first = ascii "(" ∧ third = ascii ")" then
        let _ ← take last
        let value ← oneWord first
        let _ ← take first
        return value
      else if isJoint second then whole
      else refuse (Quoting.plain second ++ ascii ": binary operator expected")
  | _ => whole

def counted (whole : Reader Bool) (last : Bytes) (count : Nat) : Reader Bool := do
  match count with
  | 1 => oneWord last
  | 2 => twoWords last
  | 3 => threeWords whole last
  | 4 =>
      match ← get with
      | first :: _ :: _ :: fourth :: _ =>
          if first = ascii "!" then
            let _ ← take last
            return !(← threeWords whole first)
          else if first = ascii "(" ∧ fourth = ascii ")" then
            let _ ← take last
            let value ← twoWords first
            let _ ← take first
            return value
          else whole
      | _ => whole
  | _ => whole

def term (whole : Reader Bool) (last : Bytes) : Nat → Reader Bool
  | 0 => refuse (ascii "too many arguments")
  | bound + 1 => do
      match ← get with
      | [] => refuse (ascii "missing argument after " ++ Quoting.plain last)
      | first :: rest =>
          if first = ascii "!" then
            set rest
            return !(← term whole first bound)
          else if first = ascii "(" then
            set rest
            let inside := rest.takeWhile (· ≠ ascii ")")
            let count := if inside.length ≤ 3 ∧ inside.length < rest.length then
                max 1 inside.length
              else rest.length
            let value ← counted whole first count
            match ← get with
            | [] => refuse (ascii "')' expected")
            | word :: after =>
                if word = ascii ")" then
                  set after
                  return value
                else refuse (ascii "')' expected, found " ++ word)
          else
            match rest with
            | operator :: _ :: _ =>
                if isBinary operator then binary last else single first rest
            | _ => single first rest
where
  single (first : Bytes) (rest : List Bytes) : Reader Bool := do
    if isUnary first ∧ rest ≠ [] then unary last
    else if isDashed first ∧ !isUnary first then
      refuse (Quoting.plain first ++ ascii ": unary operator expected")
    else if isUnary first then refuse (ascii "missing argument after " ++ Quoting.plain first)
    else
      set rest
      return !first.isEmpty

def joined (part : Reader Bool) (joint : Bytes) (join : Bool → Bool → Bool) : Nat → Reader Bool
  | 0 => part
  | bound + 1 => do
      let left ← part
      match ← get with
      | word :: rest =>
          if word = joint then
            set rest
            return join left (← joined part joint join bound)
          else return left
      | [] => return left

def whole (last : Bytes) (size : Nat) : Nat → Reader Bool
  | 0 => refuse (ascii "too many arguments")
  | bound + 1 =>
      let conjunction := joined (term (whole last size bound) last size) (ascii "-a") and size
      joined conjunction (ascii "-o") or size

def evaluate (words : List Bytes) : Act (Except Bytes Bool) := do
  if words = [] then return .ok false
  let last := words.getLastD []
  let size := words.length + 1
  let reader : Reader Bool := do
    let value ← counted (whole last size size) last words.length
    match ← get with
    | [] => return value
    | extra :: _ => refuse (ascii "extra argument " ++ Quoting.plain extra)
  match ← (reader.run words).run with
  | .ok (value, _) => return .ok value
  | .error message => return .error message

end Condition

def test : Main := fun arguments => do
  match ← Condition.evaluate arguments with
  | .ok value => return if value then 0 else 1
  | .error message => Run.fail message 2

def bracket : Main := fun arguments => do
  if arguments.getLast? = some (ascii "]") then test arguments.dropLast
  else Run.fail (ascii "missing ']'") 2

end Rpn.Tool

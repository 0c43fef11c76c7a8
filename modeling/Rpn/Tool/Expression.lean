import Rpn.Text.Regex.Reader
import Rpn.Tool.Options
import Rpn.Tool.Quoting

/-! A tool that evaluates an expression given as arguments.  Only serves the test environment. -/

namespace Rpn.Tool

open Host Text

namespace Expression

inductive Fault where
  | unexpected (word : Bytes)
  | missingAfter (word : Bytes)
  | missingClosing (word : Bytes)
  | notInteger
  | divisionByZero
  | regex (fault : Regex.Fault)

def Fault.message : Fault → Bytes
  | unexpected word => ascii "syntax error: unexpected argument " ++ Quoting.plain word
  | missingAfter word => ascii "syntax error: missing argument after " ++ Quoting.plain word
  | missingClosing word => ascii "syntax error: expecting ')' after " ++ Quoting.plain word
  | notInteger => ascii "non-integer argument"
  | divisionByZero => ascii "division by zero"
  | regex fault => fault.message

/-- The words that are left, and the last one that was taken.  What is read counts only while
`active` holds. -/
structure State where
  rest : List Bytes
  last : Bytes := []
  active : Bool := true

abbrev Reader := StateT State (Except Fault)

def integer? (text : Bytes) : Option Int :=
  match text with
  | Ascii.minus :: digits => (Bytes.toNat? digits).map fun value => -(value : Int)
  | digits => (Bytes.toNat? digits).map fun value => (value : Int)

def isNull (text : Bytes) : Bool :=
  match text with
  | [] => true
  | Ascii.minus :: digits => digits != [] && digits.all (· == Ascii.zero)
  | digits => digits.all (· == Ascii.zero)

def take : Reader Bytes := do
  let state ← get
  match state.rest with
  | [] => throw (.missingAfter state.last)
  | word :: rest =>
      set { state with rest, last := word }
      return word

def takeOne? (words : List String) : Reader (Option Bytes) := do
  let state ← get
  match state.rest with
  | word :: rest =>
      if words.any (ascii · == word) then
        set { state with rest, last := word }
        return some word
      else return none
  | [] => return none

def matchStart (text pattern : Bytes) : Except Fault Bytes := do
  match Regex.read {} pattern with
  | .error fault => .error (.regex fault)
  | .ok (regex, groups) =>
      let data := text.toByteArray
      match Regex.matchAt regex.matcher data 0 with
      | some found =>
          if groups = 0 then return .ofNat (found.stop - found.start)
          else return found.text data 1
      | none => return if groups = 0 then ascii "0" else []

def part (text position length : Bytes) : Bytes :=
  match integer? position, integer? length with
  | some position, some length =>
      if position ≤ 0 ∨ length ≤ 0 then [] else (text.drop (position.toNat - 1)).take length.toNat
  | _, _ => []

def firstOf (text bytes : Bytes) : Nat :=
  match text.findIdx? (bytes.contains ·) with
  | some index => index + 1
  | none => 0

def primary (whole : Reader Bytes) : Reader Bytes := do
  let word ← take
  if word = ascii "(" then
    let value ← whole
    match ← takeOne? [")"] with
    | some _ => return value
    | none =>
        let state ← get
        match state.rest with
        | [] => throw (.missingClosing state.last)
        | word :: _ => throw (.unexpected word)
  else if word = ascii ")" then throw (.unexpected word)
  else return word

def application (whole : Reader Bytes) : Nat → Reader Bytes
  | 0 => primary whole
  | bound + 1 => do
      let state ← get
      match state.rest with
      | word :: _ =>
          let inner := application whole bound
          if word = ascii "+" then
            let _ ← take
            take
          else if word = ascii "length" then
            let _ ← take
            return .ofNat (← inner).length
          else if word = ascii "match" then
            let _ ← take
            let text ← inner
            matchStart text (← inner)
          else if word = ascii "index" then
            let _ ← take
            let text ← inner
            return .ofNat (firstOf text (← inner))
          else if word = ascii "substr" then
            let _ ← take
            let text ← inner
            let position ← inner
            return part text position (← inner)
          else primary whole
      | [] => throw (.missingAfter state.last)

def counting (condition : Bool) (inner : Reader Bytes) : Reader Bytes := do
  let active := (← get).active
  modify fun state => { state with active := active && condition }
  let value ← inner
  modify fun state => { state with active }
  return value

/-- Operators of one rank, from left to right.  `needed` says for which left sides the right one
counts.  The number bounds how many there are. -/
def operators (inner : Reader Bytes) (words : List String)
    (apply : Bytes → Bytes → Bytes → Except Fault Bytes)
    (needed : Bytes → Bool) : Nat → Bytes → Reader Bytes
  | 0, left => return left
  | bound + 1, left => do
      match ← takeOne? words with
      | none => return left
      | some operator =>
          let right ← counting (needed left) inner
          let value ← if (← get).active then apply operator left right else pure left
          operators inner words apply needed bound value

def calculate (operator left right : Bytes) : Except Fault Bytes := do
  match integer? left, integer? right with
  | some first, some second =>
      match operator with
      | [Ascii.plus] => return .ofInt (first + second)
      | [Ascii.minus] => return .ofInt (first - second)
      | [Ascii.asterisk] => return .ofInt (first * second)
      | [Ascii.slash] =>
          if second = 0 then .error .divisionByZero else return .ofInt (first.tdiv second)
      | _ => if second = 0 then .error .divisionByZero else return .ofInt (first.tmod second)
  | _, _ => .error .notInteger

def compareValues (operator left right : Bytes) : Bytes :=
  let order := match integer? left, integer? right with
    | some first, some second => compare first second
    | _, _ => compare left right
  let holds : Bool := match operator with
    | [Ascii.less] => order == .lt
    | [Ascii.greater] => order == .gt
    | [Ascii.less, _] => order != .gt
    | [Ascii.greater, _] => order != .lt
    | [Ascii.exclamation, _] => order != .eq
    | _ => order == .eq
  if holds then ascii "1" else ascii "0"

def whole (size : Nat) : Nat → Reader Bytes
  | 0 => throw .notInteger
  | bound + 1 => do
      let matching := do
        let start := application (whole size bound) size
        operators start [":"] (fun _ left right => matchStart left right) always size (← start)
      let products := do
        operators matching ["*", "/", "%"] calculate always size (← matching)
      let sums := do operators products ["+", "-"] calculate always size (← products)
      let comparisons := do
        operators sums ["<", "<=", "=", "==", "!=", ">=", ">"]
          (fun operator left right => .ok (compareValues operator left right)) always size (← sums)
      let conjunctions := do
        operators comparisons ["&"]
          (fun _ left right => .ok (if isNull left || isNull right then ascii "0" else left))
          (!isNull ·) size (← comparisons)
      operators conjunctions ["|"]
        (fun _ left right => .ok
          (if !isNull left then left else if isNull right then ascii "0" else right))
        isNull size (← conjunctions)
where
  always (_ : Bytes) : Bool := true

def evaluate (words : List Bytes) : Except Fault Bytes := do
  let size := words.length + 1
  let (value, state) ← (whole size size).run { rest := words }
  match state.rest with
  | [] => return value
  | word :: _ => .error (.unexpected word)

end Expression

def expr : Main := fun arguments => do
  let words := if arguments.head? = some (ascii "--") then arguments.tail else arguments
  if words = [] then Run.failWithHint (ascii "missing operand") 2
  match Expression.evaluate words with
  | .ok value =>
      Run.sayLine value
      return if Expression.isNull value then 1 else 0
  | .error fault => Run.fail fault.message 2

end Rpn.Tool

import Rpn.Shell.Word

/-! Integer expressions of the shell: words of 64 bits with the operators of the language.  Part of
the test environment. -/

namespace Rpn.Shell.Arithmetic

inductive Fault where
  | malformed
  | divisionByZero
  | illegalNumber (text : Bytes)
  | negativeExponent
  deriving DecidableEq, Repr

def wrap (value : Int) : Int :=
  Int.bmod value 18446744073709551616

/-! Numbers. -/

def digit? (base : Nat) (byte : UInt8) : Option Nat :=
  let value? : Option Nat :=
    if isDigit byte then some (byte.toNat - 48)
    else if 97 ≤ byte && byte ≤ 122 then some (byte.toNat - 87)
    else if 65 ≤ byte && byte ≤ 90 then
      some (if base ≤ 36 then byte.toNat - 55 else byte.toNat - 29)
    else if byte = Ascii.atSign then some 62
    else if byte = Ascii.underscore then some 63
    else none
  value?.filter (· < base)

def valueInBase (base : Nat) (digits : Bytes) : Nat :=
  digits.foldl (fun number byte => number * base + (digit? base byte).getD 0) 0

/-- The number at the front of a text: decimal, octal after a zero, hexadecimal after `0x`, and in
the extended language in any base before a hash. -/
def numberPrefix (extended : Bool) (input : Bytes) : Int × Bytes :=
  let inBase := fun (base : Nat) (input : Bytes) =>
    let digits := input.takeWhile fun byte => (digit? base byte).isSome
    ((valueInBase base digits : Int), input.drop digits.length)
  match input with
  | Ascii.zero :: mark :: rest =>
      if (mark = 120 ∨ mark = 88) ∧ (rest.head?.bind (digit? 16)).isSome then inBase 16 rest
      else inBase 8 input
  | input =>
      let (value, rest) := inBase 10 input
      match extended, rest with
      | true, Ascii.hash :: digits => inBase value.toNat digits
      | _, _ => (value, rest)

def greatest : Int := 9223372036854775807

def number? (extended : Bool) (text : Bytes) : Option Int :=
  let text := text.dropWhile isBlank
  let (negative, digits) := match text with
    | Ascii.minus :: rest => (true, rest)
    | Ascii.plus :: rest => (false, rest)
    | text => (false, text)
  if startsWithDigit digits then
    let (value, rest) := numberPrefix extended digits
    if rest.all isBlank then
      some (if negative then -(min value (greatest + 1)) else min value greatest)
    else none
  else none

/-! Symbols. -/

/-- A symbol of an expression.  An element of an array keeps the text of its subscript. -/
inductive Symbol where
  | number (value : Int)
  | name (name : Bytes)
  | element (name subscript : Bytes)
  | mark (text : Bytes)
  deriving DecidableEq, Repr

def marks (extended : Bool) : List Bytes :=
  (if extended then ["**", "++", "--"].map ascii else []) ++
    ["<<=", ">>=", "&&", "||", "==", "!=", "<=", ">=", "<<", ">>", "+=", "-=", "*=", "/=", "%=",
      "&=", "|=", "^="].map ascii

def subscript? : Nat → Bytes → Option (Bytes × Bytes)
  | _, [] => none
  | depth, byte :: rest => do
      if byte = Ascii.closeBracket ∧ depth = 0 then return ([], rest)
      else
        let depth := if byte = Ascii.openBracket then depth + 1
          else if byte = Ascii.closeBracket then depth - 1 else depth
        let (text, rest) ← subscript? depth rest
        return (byte :: text, rest)

/-- The symbols of an expression; the number bounds how many there are. -/
def symbols (extended : Bool) : Nat → Bytes → List Symbol
  | 0, _ => []
  | _, [] => []
  | count + 1, byte :: rest =>
      let input := byte :: rest
      if isBlank byte then symbols extended count rest
      else if isDigit byte then
        let (value, rest) := numberPrefix extended input
        let value := if extended then wrap value else min value greatest
        .number value :: symbols extended count rest
      else if isNameStart byte then
        let name := input.takeWhile isNameByte
        let rest := input.drop name.length
        let found? := match extended, rest with
          | true, Ascii.openBracket :: rest => subscript? 0 rest
          | _, _ => none
        match found? with
        | some (subscript, rest) => .element name subscript :: symbols extended count rest
        | none => .name name :: symbols extended count rest
      else
        match (marks extended).find? (·.isPrefixOf input) with
        | some mark => .mark mark :: symbols extended count (input.drop mark.length)
        | none => .mark [byte] :: symbols extended count rest

/-! Expressions. -/

/-- A place that has a value: a variable or an element of an array. -/
inductive Expression where
  | number (value : Int)
  | name (name : Bytes)
  | element (name subscript : Bytes)
  | unary (operator : Bytes) (operand : Expression)
  | binary (operator : Bytes) (left right : Expression)
  | conditional (test yes no : Expression)
  | assign (operator : Bytes) (target value : Expression)
  | step (amount : Int) (before : Bool) (target : Expression)

def levels : List (List Bytes) :=
  [["||"], ["&&"], ["|"], ["^"], ["&"], ["==", "!="], ["<", ">", "<=", ">="], ["<<", ">>"],
    ["+", "-"], ["*", "/", "%"]].map (·.map ascii)

def assignments : List Bytes :=
  ["=", "+=", "-=", "*=", "/=", "%=", "<<=", ">>=", "&=", "|=", "^="].map ascii

abbrev ExpressionReader := List Symbol → Except Fault (Expression × List Symbol)

def isPlace : Expression → Bool
  | .name _ | .element _ _ => true
  | _ => false

def expect (mark : String) : List Symbol → Except Fault (List Symbol)
  | .mark found :: rest => if found = ascii mark then .ok rest else .error .malformed
  | _ => .error .malformed

def readPlace (place : Expression) : ExpressionReader
  | .mark mark :: others =>
      if mark = ascii "++" then .ok (.step 1 false place, others)
      else if mark = ascii "--" then .ok (.step (-1) false place, others)
      else .ok (place, .mark mark :: others)
  | rest => .ok (place, rest)

def readOperand (whole : ExpressionReader) (extended : Bool) : Nat → ExpressionReader
  | 0, _ => .error .malformed
  | bound + 1, input => do
      match input with
      | .number value :: rest => return (.number value, rest)
      | .name name :: rest => readPlace (.name name) rest
      | .element name subscript :: rest => readPlace (.element name subscript) rest
      | .mark mark :: rest =>
          if mark = ascii "(" then
            let (inner, rest) ← whole rest
            return (inner, ← expect ")" rest)
          else if ["-", "+", "!", "~"].any (ascii · == mark) then
            let (operand, rest) ← readOperand whole extended bound rest
            return (.unary mark operand, rest)
          else if mark = ascii "++" ∨ mark = ascii "--" then
            let (operand, rest) ← readOperand whole extended bound rest
            if isPlace operand then
              return (.step (if mark = ascii "++" then 1 else -1) true operand, rest)
            else .error .malformed
          else .error .malformed
      | [] => .error .malformed

def readPower (whole : ExpressionReader) (extended : Bool) : Nat → ExpressionReader
  | 0, _ => .error .malformed
  | bound + 1, input => do
      let (left, rest) ← readOperand whole extended (input.length + 1) input
      match rest with
      | .mark mark :: others =>
          if mark = ascii "**" then
            let (right, rest) ← readPower whole extended bound others
            return (.binary mark left right, rest)
          else return (left, rest)
      | _ => return (left, rest)

def readMore (operand : ExpressionReader) (level : List Bytes) (left : Expression) :
    Nat → ExpressionReader
  | 0, _ => .error .malformed
  | bound + 1, input => do
      match input with
      | .mark mark :: rest =>
          if level.contains mark then
            let (right, rest) ← operand rest
            readMore operand level (.binary mark left right) bound rest
          else return (left, input)
      | _ => return (left, input)

def readLevels (operand : ExpressionReader) : List (List Bytes) → ExpressionReader
  | [], input => operand input
  | level :: tighter, input => do
      let (left, rest) ← readLevels operand tighter input
      readMore (readLevels operand tighter) level left (input.length + 1) rest

def readExpression (extended : Bool) : Nat → ExpressionReader
  | 0, _ => .error .malformed
  | bound + 1, input => do
      let whole := readComma bound
      let (left, rest) ←
        readLevels (readPower whole extended (input.length + 1)) levels input
      match rest with
      | .mark mark :: others =>
          if isPlace left ∧ assignments.contains mark then
            let (value, rest) ← readExpression extended bound others
            return (.assign mark.dropLast left value, rest)
          else if mark = ascii "?" then
            let (yes, rest) ← readExpression extended bound others
            let (no, rest) ← readExpression extended bound (← expect ":" rest)
            return (.conditional left yes no, rest)
          else return (left, rest)
      | _ => return (left, rest)
where
  readComma : Nat → ExpressionReader
    | 0, _ => .error .malformed
    | bound + 1, input => do
        let (left, rest) ← readExpression extended bound input
        match extended, rest with
        | true, .mark mark :: others =>
            if mark = ascii "," then
              let (right, rest) ← readComma bound others
              return (.binary mark left right, rest)
            else return (left, rest)
        | _, _ => return (left, rest)

/-- The expression of a whole text.  An empty text is zero. -/
def read (extended : Bool) (text : Bytes) : Except Fault Expression := do
  let input := symbols extended (text.length + 1) text
  if input.isEmpty then return .number 0
  else
    match ← readExpression.readComma extended (4 * input.length + 4) input with
    | (expression, []) => return expression
    | _ => .error .malformed

/-! Values. -/

def ofBool (truth : Bool) : Int :=
  if truth then 1 else 0

def bits (value : Int) : Nat :=
  (value % 18446744073709551616).toNat

def compute (operator : Bytes) (left right : Int) : Except Fault Int :=
  let shift := bits right % 64
  if operator = ascii "+" then .ok (wrap (left + right))
  else if operator = ascii "-" then .ok (wrap (left - right))
  else if operator = ascii "*" then .ok (wrap (left * right))
  else if operator = ascii "/" then
    if right = 0 then .error .divisionByZero else .ok (wrap (left.tdiv right))
  else if operator = ascii "%" then
    if right = 0 then .error .divisionByZero else .ok (left.tmod right)
  else if operator = ascii "**" then
    if right < 0 then .error .negativeExponent else .ok (wrap (Int.pow left right.toNat))
  else if operator = ascii "<<" then .ok (wrap (left * Int.pow 2 shift))
  else if operator = ascii ">>" then .ok (left.fdiv (Int.pow 2 shift))
  else if operator = ascii "&" then .ok (wrap (bits left &&& bits right : Nat))
  else if operator = ascii "|" then .ok (wrap (bits left ||| bits right : Nat))
  else if operator = ascii "^" then .ok (wrap (bits left ^^^ bits right : Nat))
  else if operator = ascii "==" then .ok (ofBool (left == right))
  else if operator = ascii "!=" then .ok (ofBool (left != right))
  else if operator = ascii "<" then .ok (ofBool (left < right))
  else if operator = ascii ">" then .ok (ofBool (right < left))
  else if operator = ascii "<=" then .ok (ofBool (left ≤ right))
  else if operator = ascii ">=" then .ok (ofBool (right ≤ left))
  else if operator = ascii "," then .ok right
  else .error .malformed

inductive Subscript where
  | number (value : Int)
  | key (text : Bytes)
  deriving DecidableEq, Repr

abbrev Place := Bytes × Option Subscript

/-- What evaluation knows: the text of variables and of elements, which variables are tables, and the
values assigned so far. -/
structure Scope where
  textOf : Place → Bytes
  isTable : Bytes → Bool
  assigned : List (Place × Int) := []

abbrev Evaluation := StateT Scope (Except Fault)

/-- The value of a variable or an element.  Its text is a number, or in the extended language an
expression of its own, to which `inner` gives the value. -/
def fetch (inner : Bytes → Evaluation Int) (extended : Bool) (place : Place) :
    Evaluation Int := do
  let scope ← get
  match scope.assigned.lookup place with
  | some value => return value
  | none =>
      let text := scope.textOf place
      if text.all isBlank then return 0
      else
        match number? extended text with
        | some value => return value
        | none => if extended then inner text else throw (.illegalNumber text)

def store (place : Place) (value : Int) : Evaluation Unit :=
  modify fun scope => { scope with
    assigned := (place, value) :: scope.assigned.filter (·.1 ≠ place) }

def elementOf (inner : Bytes → Evaluation Int) (name subscript : Bytes) : Evaluation Place := do
  if (← get).isTable name then return (name, some (.key subscript))
  else return (name, some (.number (← inner subscript)))

/-- The value of an expression.  Only one side of a choice is evaluated. -/
def evaluate (inner : Bytes → Evaluation Int) (extended : Bool) : Expression → Evaluation Int
  | .number value => return value
  | .name name => fetch inner extended (name, none)
  | .element name subscript => do fetch inner extended (← elementOf inner name subscript)
  | .unary operator operand => do
      let value ← evaluate inner extended operand
      if operator = ascii "-" then return wrap (-value)
      else if operator = ascii "!" then return ofBool (value == 0)
      else if operator = ascii "~" then return -value - 1
      else return value
  | .binary operator left right => do
      let first ← evaluate inner extended left
      if operator = ascii "&&" then
        if first = 0 then return 0 else return ofBool ((← evaluate inner extended right) != 0)
      else if operator = ascii "||" then
        if first = 0 then return ofBool ((← evaluate inner extended right) != 0) else return 1
      else compute operator first (← evaluate inner extended right)
  | .conditional test yes no => do
      if (← evaluate inner extended test) = 0 then evaluate inner extended no
      else evaluate inner extended yes
  | .assign operator target value => do
      let value ← evaluate inner extended value
      update extended target fun old => if operator = [] then .ok value
        else compute operator old value
  | .step amount before target => do
      let after ← update extended target fun old => .ok (wrap (old + amount))
      return if before then after else wrap (after - amount)
where
  update (extended : Bool) (target : Expression) (change : Int → Except Fault Int) :
      Evaluation Int := do
    match target with
    | .name name => assignTo extended (name, none) change
    | .element name subscript => do
        assignTo extended (← elementOf inner name subscript) change
    | _ => throw .malformed
  assignTo (extended : Bool) (place : Place) (change : Int → Except Fault Int) :
      Evaluation Int := do
    let old ← try fetch inner extended place catch _ => pure 0
    let value ← change old
    store place value
    return value

/-- The value of a text.  The number bounds how deep texts of variables are followed. -/
def evaluateText (extended : Bool) : Nat → Bytes → Evaluation Int
  | 0, _ => throw .malformed
  | depth + 1, text => do
      evaluate (evaluateText extended depth) extended (← read extended text)

def run (extended : Bool) (textOf : Place → Bytes) (isTable : Bytes → Bool) (text : Bytes) :
    Except Fault (Int × List (Place × Int)) := do
  let (value, scope) ← (evaluateText extended 100 text).run { textOf, isTable }
  return (value, scope.assigned.reverse)

end Rpn.Shell.Arithmetic

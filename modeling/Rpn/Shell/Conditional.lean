import Rpn.Shell.Builtin.Condition
import Rpn.Text.Regex.Reader

/-! Conditions of the extended language.  Only serves the test environment. -/

namespace Rpn.Shell.Conditional

open Host

def isArithmetic (operator : Bytes) : Bool :=
  ["-eq", "-ne", "-lt", "-le", "-gt", "-ge"].any (ascii · == operator)

def unary (operator operand : Bytes) : Run Bool := do
  let letter := operator.getD 1 0
  match Char.ofNat letter.toNat with
  | 'v' => Builtin.hasValue operand
  | 'R' => return (((← get).known.get? operand).map (·.reference)).getD false
  | 'o' => return (← get).options.contains operand
  | _ =>
      match ← Test.evaluateUnary { Builtin.manner with missingIsOlder := true } letter operand with
      | .ok value => return value
      | .error message => Run.fail message

def regexText (marks : List Mark) : Bytes :=
  marks.flatMap fun mark =>
    if mark.quoted ∧ (ascii "\\^$.[]|()*+?\x7b\x7d").contains mark.byte then
      [Ascii.backslash, mark.byte]
    else [mark.byte]

/-- Whether a text has a match of a regular expression, as a status.  The match and its groups are
remembered. -/
def matches? (hooks : Hooks) (subject : Bytes) (right : Word) : Run Nat := do
  let shell ← get
  let items ← Expansion.items hooks { divided := false } (Expansion.tilde shell right)
  let text := regexText (Item.marks [Ascii.space] items)
  let folded := (← get).settings.contains (ascii "nocasematch")
  match Text.Regex.read { extended := true, folded } text with
  | .error _ => return 2
  | .ok (regex, groups) =>
      let bytes : ByteArray := ⟨subject.toArray⟩
      let remember := fun (texts : List Bytes) =>
        modify fun (shell : State) => { shell with
          known := shell.known.put (ascii "BASH_REMATCH")
            { value := some (.ofTexts texts), shape := .list } }
      match regex.matcher.search bytes with
      | some found =>
          remember ((List.range (groups + 1)).map (found.text bytes))
          return 0
      | none =>
          remember []
          return 1

/-- Whether two words with an operator between them hold.  The right one can be a pattern. -/
def binary (hooks : Hooks) (first operator : Bytes) (right : Word) : Run Bool := do
  let pattern : Run Pattern := do
    let dialect ← Run.dialect
    return Pattern.ofMarks (← expandMarks hooks right) { dialect with groups := true }
  if operator = ascii "=" ∨ operator = ascii "==" then return (← pattern).matchesWhole first
  else if operator = ascii "!=" then return !(← pattern).matchesWhole first
  else
    let second ← expandText hooks right
    if isArithmetic operator then
      return Test.compareNumbers operator (← Expansion.calculate first)
        (← Expansion.calculate second)
    else
      match ← Test.evaluateBinary { Builtin.manner with missingIsOlder := true } first operator
          second with
      | .ok value => return value
      | .error message => Run.fail message

def statusIf (holds : Bool) : Nat :=
  if holds then 0 else 1

def shown (text : Bytes) : Bytes :=
  if text = [] then ascii "''" else text

/-- The status of a condition: 0 if it holds.  `trace` shows its parts. -/
def status (hooks : Hooks) (trace : Bytes → Run Unit) : Condition → Run Nat
  | .word word => do
      let text ← expandText hooks word
      trace (ascii "-n " ++ shown text)
      return statusIf !text.isEmpty
  | .unary operator operand => do
      let text ← expandText hooks operand
      trace (operator ++ Ascii.space :: shown text)
      return statusIf (← unary operator text)
  | .binary left operator right => do
      let first ← expandText hooks left
      if ← Run.isOn "xtrace" then
        trace (shown first ++ Ascii.space :: operator ++ Ascii.space ::
          shown (← expandText hooks right))
      if operator = ascii "=~" then matches? hooks first right
      else return statusIf (← binary hooks first operator right)
  | .negate condition => return statusIf ((← status hooks trace condition) ≠ 0)
  | .both left right => do
      match ← status hooks trace left with
      | 0 => status hooks trace right
      | refused => return refused
  | .either left right => do
      match ← status hooks trace left with
      | 0 => return 0
      | _ => status hooks trace right

end Rpn.Shell.Conditional

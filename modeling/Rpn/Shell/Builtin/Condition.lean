import Rpn.Shell.Builtin.Variables
import Rpn.Shell.Test

/-! Conditions as built-in commands.  Only serves the test environment. -/

namespace Rpn.Shell.Builtin

open Host

def manner : Test.Manner :=
  { number := Test.decimal, missingIsOlder := false }

def hasValueIn (shell : State) (operand : Bytes) : Bool :=
  let base := operand.takeWhile (· != Ascii.openBracket)
  let (name, _) := shell.known.resolve base
  let value? := Parameter.valueOf? shell name
  if base.length < operand.length then
    let key := (operand.drop (base.length + 1)).dropLast
    if key = ascii "@" ∨ key = ascii "*" then (value?.map Value.texts).any (!·.isEmpty)
    else
      match value? with
      | some (.table elements) => elements.any (·.1 == key)
      | value =>
          match Arithmetic.run true (Expansion.textOf shell) (Expansion.isTable shell) key with
          | .ok (index, _) =>
              match Parameter.ofElement value index with
              | .one _ => true
              | _ => false
          | .error _ => false
  else
    match Bytes.toNat? operand with
    | some number => number ≤ shell.arguments.length
    | none => (value?.bind Value.text?).isSome

def hasValue (operand : Bytes) : Run Bool :=
  return hasValueIn (← get) operand

def aboutShell (shell : State) (letter : UInt8) (operand : Bytes) : Option Bool :=
  if !shell.extended then none
  else
    match Char.ofNat letter.toNat with
    | 'v' => some (hasValueIn shell operand)
    | 'o' => some (shell.options.contains operand)
    | 'R' => some (((shell.known.get? operand).map (·.reference)).getD false)
    | _ => none

def testWith (name : String) (words : List Bytes) : Run Nat := do
  let refused := fun (message : Bytes) => do
    Run.complain (ascii name ++ ascii ": " ++ message)
    return 2
  let shell ← get
  let manner := { manner with missingIsOlder := shell.extended, known := aboutShell shell }
  let found := if shell.extended then Test.readExtended words
    else Test.read (words.length + 1) words
  match found with
  | .error message => refused message
  | .ok test =>
      match ← test.evaluate manner with
      | .ok true => return 0
      | .ok false => return 1
      | .error message => refused message

def test : Builtin := fun _ _ arguments => testWith "test" arguments

def bracket : Builtin := fun _ _ arguments => do
  if arguments.getLast? = some (ascii "]") then testWith "[" arguments.dropLast
  else
    Run.complain (ascii "[: missing ]")
    return 2

end Rpn.Shell.Builtin

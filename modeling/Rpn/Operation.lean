import Rpn.CompileError
import Rpn.Instruction

/-! Operations are the instructions for which there is code: a push has a literal, and every
other operation has none. -/

namespace Rpn

inductive Operation where
  | push (literal : Bytes)
  | plus
  | minus
  | multiply
  | divide
  | modulus
  | power
  | factorial
  | abs
  | sin
  | cos
  | tan
  | sqrt
  | dup
  | swap
  deriving DecidableEq, Repr

namespace Operation

/-- The operation of the instruction at an index.  A push needs a literal that is not empty; what
another instruction carries is ignored. -/
def ofInstruction (index : Nat) (instruction : Instruction) : Except CompileError Operation :=
  match instruction.opcode with
  | .push =>
      match instruction.value? with
      | none | some [] => .error (.missingValue index)
      | some literal => .ok (push literal)
  | .plus => .ok plus
  | .minus => .ok minus
  | .multiply => .ok multiply
  | .divide => .ok divide
  | .modulus => .ok modulus
  | .power => .ok power
  | .factorial => .ok factorial
  | .abs => .ok abs
  | .sin => .ok sin
  | .cos => .ok cos
  | .tan => .ok tan
  | .sqrt => .ok sqrt
  | .dup => .ok dup
  | .swap => .ok swap
  | .other => .error (.unknownInstruction index)

def ofInstructionsFrom (index : Nat) :
    List Instruction → Except CompileError (List Operation)
  | [] => .ok []
  | instruction :: rest => do
      let operation ← ofInstruction index instruction
      let operations ← ofInstructionsFrom (index + 1) rest
      return operation :: operations

/-- The operations of a list of instructions, or the fault of the first one that has none. -/
def ofInstructions (instructions : List Instruction) : Except CompileError (List Operation) :=
  ofInstructionsFrom 0 instructions

end Operation

end Rpn

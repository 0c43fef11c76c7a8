import Rpn.CompileError
import Rpn.ConstantPool
import Rpn.Instruction

/-! A program: instructions in order and the pool of the literals that they push. -/

namespace Rpn

/-- The instruction without a literal that a token stands for. -/
def Token.Kind.opcode? : Token.Kind → Option Instruction.Opcode
  | .plus => some .plus
  | .minus => some .minus
  | .times => some .multiply
  | .divide => some .divide
  | .modulo => some .modulus
  | .power => some .power
  | .factorial => some .factorial
  | .abs => some .abs
  | .sin => some .sin
  | .cos => some .cos
  | .tan => some .tan
  | .sqrt => some .sqrt
  | .dup => some .dup
  | .swap => some .swap
  | .number | .e | .pi | .endOfInput | .invalid | .other => none

def Instruction.ofToken (token : Token) : Except CompileError Instruction :=
  if token.kind = .number then .ok ⟨.push, some token.literal⟩
  else
    match token.kind.opcode? with
    | some opcode => .ok ⟨opcode, none⟩
    | none => .error (.unexpectedToken token)

structure Program where
  instructions : List Instruction
  constants : ConstantPool

namespace Program

def empty : Program :=
  ⟨[], .empty⟩

/-- The program of some instructions, with every literal they carry in its pool. -/
def ofInstructions (instructions : List Instruction) : Program :=
  ⟨instructions, .ofList (instructions.filterMap (·.value?))⟩

/-- One instruction for each token. -/
def ofTokens (tokens : List Token) : Except CompileError Program :=
  (tokens.mapM Instruction.ofToken).map ofInstructions

end Program

end Rpn

import Rpn.Bytes

/-! Instructions of the stack machine that expressions are built into. -/

namespace Rpn

namespace Instruction

/-- What an instruction does.  `other` stands for an opcode that this machine does not have. -/
inductive Opcode where
  | push
  | plus
  | minus
  | multiply
  | divide
  | modulus
  | power
  | factorial
  | abs
  | sin
  | cos
  | tan
  | sqrt
  | dup
  | swap
  | other
  deriving DecidableEq, Repr

def Opcode.name : Opcode → Bytes
  | push => ascii "PUSH"
  | plus => ascii "PLUS"
  | minus => ascii "MINUS"
  | multiply => ascii "MULTIPLY"
  | divide => ascii "DIVIDE"
  | modulus => ascii "MODULUS"
  | power => ascii "POWER"
  | factorial => ascii "FACTORIAL"
  | abs => ascii "ABS"
  | sin => ascii "SIN"
  | cos => ascii "COS"
  | tan => ascii "TAN"
  | sqrt => ascii "SQRT"
  | dup => ascii "DUP"
  | swap => ascii "SWAP"
  | other => ascii "UNKNOWN"

end Instruction

/-- An instruction with the literal that it carries.  Only `push` has a use for one. -/
structure Instruction where
  opcode : Instruction.Opcode
  value? : Option Bytes := none
  deriving DecidableEq, Repr

namespace Instruction

def render (instruction : Instruction) : Bytes :=
  match instruction.value? with
  | none => instruction.opcode.name
  | some value => instruction.opcode.name ++ Ascii.space :: value

def listingFrom (index : Nat) : List Instruction → Bytes
  | [] => []
  | instruction :: rest =>
      (Bytes.ofNat index ++ Ascii.tab :: instruction.render).line ++ listingFrom (index + 1) rest

/-- One numbered line per instruction. -/
def listing (instructions : List Instruction) : Bytes :=
  listingFrom 0 instructions

end Instruction

end Rpn

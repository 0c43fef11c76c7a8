import Rpn.Codegen.Symbols
import Rpn.Operation

/-! The code of a single operation.  The values of the program are on the machine stack and the
depth cell counts them, so that every block can look for its operands before it takes them. -/

namespace Rpn.Codegen

open Assembly

/-! Steps that blocks share. -/

/-- Fail unless the stack has at least `count` entries. -/
def requireEntries (count : Nat) : List Instr :=
  [.compareCell Cell.depth count, .jumpIf .below Handler.tooFew]

def popInto (cell : Symbol) : List Instr :=
  [.pop .rax, .store cell .rax]

def pushFrom (cell : Symbol) : List Instr :=
  [.load .rax cell, .push .rax]

/-- Truncate the double in a cell towards zero.  A double that is not a number or has no 64-bit
integer part is truncated to the least integer, the only one whose negation overflows. -/
def truncateInto (target : Register) (cell : Symbol) : List Instr :=
  [.truncate target cell, .move .rsi target, .negate .rsi, .jumpIf .overflow Handler.overflow]

/-- Fail if the last trigonometric operation left its operand because it was out of range. -/
def requireTrigRange : List Instr :=
  [.floatStatus, .testStatus 4, .jumpIf .notZero Handler.overflow]

/-- Push the integer in `rax` as a double. -/
def pushInteger : List Instr :=
  [.store Cell.integer .rax, .floatLoadInteger Cell.integer, .floatStore Cell.integer] ++
    pushFrom Cell.integer

/-! Blocks without a label of their own. -/

def push (literal : Bytes) : List Instr :=
  pushFrom (constantSymbol literal) ++ [.incrementCell Cell.depth]

/-- Zero of either sign is what a shift that drops the sign makes zero. -/
def requireNonzero : List Instr :=
  [.move .rcx .rax, .shiftLeft .rcx 1, .jumpIf .zero Handler.zeroDivisor]

/-- Replace the second entry and the top by their combination in this order. -/
def arithmetic (operation : FloatBinary) (check : List Instr) : List Instr :=
  requireEntries 2 ++ [.pop .rax] ++ check ++ [.store Cell.first .rax] ++ popInto Cell.second ++
    [ .floatLoad Cell.second, .floatBinary operation Cell.first, .floatStore Cell.first ] ++
    pushFrom Cell.first ++ [.decrementCell Cell.depth]

/-- The remainder of the truncated operands.  The divisor -1 is replaced by 1, which leaves the
same remainder and cannot overflow. -/
def modulus : List Instr :=
  requireEntries 2 ++ popInto Cell.first ++ popInto Cell.second ++
    truncateInto .rcx Cell.first ++ truncateInto .rax Cell.second ++
    [ .test .rcx .rcx, .jumpIf .zero Handler.zeroDivisor, .moveValue .rsi 1, .compare .rcx (-1),
      .moveIfEqual .rcx .rsi, .xor .rdx .rdx, .signExtend, .divide .rcx, .move .rax .rdx ] ++
    pushInteger ++ [.decrementCell Cell.depth]

def unary (operation : FloatUnary) (check : List Instr) : List Instr :=
  requireEntries 1 ++ popInto Cell.first ++
    [.floatLoad Cell.first, .floatUnary operation] ++ check ++ [.floatStore Cell.first] ++
    pushFrom Cell.first

def tangent : List Instr :=
  requireEntries 1 ++ popInto Cell.first ++
    [.floatLoad Cell.first, .floatUnary .sineCosine] ++ requireTrigRange ++
    [ .floatStore Cell.second, .floatBinary .divide Cell.second, .floatStore Cell.first ] ++
    pushFrom Cell.first

def duplicate : List Instr :=
  requireEntries 1 ++ [.pop .rax, .push .rax, .push .rax, .incrementCell Cell.depth]

def exchange : List Instr :=
  requireEntries 2 ++ [.pop .rax, .pop .rcx, .push .rax, .push .rcx]

/-! Blocks with loops. -/

def instrs (instructions : List Instr) : List Line :=
  instructions.map .instr

/-- The integer power by repeated multiplication; an exponent that is not positive gives zero. -/
def power (index : Nat) : List Line :=
  let positive := localLabel (ascii "power") (ascii "positive") index
  let loop := localLabel (ascii "power") (ascii "loop") index
  let store := localLabel (ascii "power") (ascii "store") index
  instrs (requireEntries 2 ++ popInto Cell.first ++ popInto Cell.second ++
    truncateInto .rdx Cell.first ++ truncateInto .rax Cell.second ++
    [.compare .rdx 0, .jumpIf .greater positive, .xorHalf .eax .eax, .jump store]) ++
  [.label positive] ++
  instrs [.move .rcx .rax, .decrement .rdx, .jumpIf .zero store] ++
  [.label loop] ++
  instrs [ .multiply .rax .rcx, .jumpIf .overflow Handler.overflow, .decrement .rdx,
    .jumpIf .notZero loop ] ++
  [.label store] ++
  instrs (pushInteger ++ [.decrementCell Cell.depth])

/-- The factorial of the truncated operand; one that is not positive gives zero. -/
def factorial (index : Nat) : List Line :=
  let loop := localLabel (ascii "factorial") (ascii "loop") index
  let store := localLabel (ascii "factorial") (ascii "store") index
  instrs (requireEntries 1 ++ popInto Cell.first ++ truncateInto .rcx Cell.first ++
    [.xorHalf .eax .eax, .compare .rcx 0, .jumpIf .notGreater store, .moveHalf .eax 1]) ++
  [.label loop] ++
  instrs [ .multiply .rax .rcx, .jumpIf .overflow Handler.overflow, .decrement .rcx,
    .jumpIf .notZero loop ] ++
  [.label store] ++
  instrs pushInteger

/-! The block of an operation begins with an empty line and its name. -/

def title : Operation → Bytes
  | .push literal => ascii "[PUSH] " ++ literal
  | .plus => ascii "[PLUS]"
  | .minus => ascii "[MINUS]"
  | .multiply => ascii "[MULTIPLY]"
  | .divide => ascii "[DIVIDE]"
  | .modulus => ascii "[MODULUS]"
  | .power => ascii "[POWER]"
  | .factorial => ascii "[FACTORIAL]"
  | .abs => ascii "[ABS]"
  | .sin => ascii "[SIN]"
  | .cos => ascii "[COS]"
  | .tan => ascii "[TAN]"
  | .sqrt => ascii "[SQRT]"
  | .dup => ascii "[DUP]"
  | .swap => ascii "[SWAP]"

def code (index : Nat) : Operation → List Line
  | .push literal => instrs (push literal)
  | .plus => instrs (arithmetic .add [])
  | .minus => instrs (arithmetic .subtract [])
  | .multiply => instrs (arithmetic .multiply [])
  | .divide => instrs (arithmetic .divide requireNonzero)
  | .modulus => instrs modulus
  | .power => power index
  | .factorial => factorial index
  | .abs => instrs (unary .absolute [])
  | .sin => instrs (unary .sine requireTrigRange)
  | .cos => instrs (unary .cosine requireTrigRange)
  | .tan => instrs tangent
  | .sqrt => instrs (unary .squareRoot [])
  | .dup => instrs duplicate
  | .swap => instrs exchange

def block (index : Nat) (operation : Operation) : List Line :=
  .blank :: .remark (title operation) :: code index operation

def blocksFrom (index : Nat) : List Operation → List Line
  | [] => []
  | operation :: rest => block index operation ++ blocksFrom (index + 1) rest

end Rpn.Codegen

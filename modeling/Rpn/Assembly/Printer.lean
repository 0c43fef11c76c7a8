import Rpn.Assembly.Basic

/-! The text of assembly lines.  An instruction is written as its mnemonic and its operands. -/

namespace Rpn.Assembly

def Register.name : Register → Bytes
  | rax => ascii "rax"
  | rbx => ascii "rbx"
  | rcx => ascii "rcx"
  | rdx => ascii "rdx"
  | rsi => ascii "rsi"
  | rdi => ascii "rdi"
  | rbp => ascii "rbp"
  | r8 => ascii "r8"
  | r9 => ascii "r9"
  | r10 => ascii "r10"
  | r11 => ascii "r11"
  | r12 => ascii "r12"
  | r13 => ascii "r13"
  | r14 => ascii "r14"
  | r15 => ascii "r15"

def HalfRegister.name : HalfRegister → Bytes
  | eax => ascii "eax"
  | edi => ascii "edi"

def Condition.mnemonic : Condition → Bytes
  | below => ascii "jb"
  | above => ascii "ja"
  | zero => ascii "jz"
  | notZero => ascii "jnz"
  | overflow => ascii "jo"
  | greater => ascii "jg"
  | notGreater => ascii "jle"

def FloatBinary.mnemonic : FloatBinary → Bytes
  | add => ascii "fadd"
  | subtract => ascii "fsub"
  | multiply => ascii "fmul"
  | divide => ascii "fdiv"

def FloatUnary.mnemonic : FloatUnary → Bytes
  | absolute => ascii "fabs"
  | sine => ascii "fsin"
  | cosine => ascii "fcos"
  | squareRoot => ascii "fsqrt"
  | sineCosine => ascii "fsincos"

/-! Operands. -/

inductive Operand where
  | register (general : Register)
  | half (low : HalfRegister)
  | statusWord
  | statusHigh
  | stackPointer
  | vector
  | value (number : Int)
  | cell (symbol : Symbol)
  | relative (symbol : Symbol)
  | target (symbol : Symbol)
  | external (symbol : Symbol)
  deriving DecidableEq, Repr

def Operand.render : Operand → Bytes
  | register general => general.name
  | half low => low.name
  | statusWord => ascii "ax"
  | statusHigh => ascii "ah"
  | stackPointer => ascii "rsp"
  | vector => ascii "xmm0"
  | value number => .ofInt number
  | cell symbol => ascii "qword ptr [rip + " ++ symbol ++ ascii "]"
  | relative symbol => ascii "[rip + " ++ symbol ++ ascii "]"
  | target symbol => symbol
  | external symbol => symbol ++ ascii "@PLT"

namespace Instr

def mnemonic : Instr → Bytes
  | push _ => ascii "push"
  | pop _ => ascii "pop"
  | move _ _ | moveValue _ _ | moveHalf _ _ | load _ _ | store _ _ | storeValue _ _ => ascii "mov"
  | address _ _ => ascii "lea"
  | compareCell _ _ | compare _ _ => ascii "cmp"
  | test _ _ | testStatus _ => ascii "test"
  | incrementCell _ => ascii "inc"
  | decrementCell _ | decrement _ => ascii "dec"
  | negate _ => ascii "neg"
  | shiftLeft _ _ => ascii "shl"
  | xor _ _ | xorHalf _ _ => ascii "xor"
  | multiply _ _ => ascii "imul"
  | signExtend => ascii "cqo"
  | divide _ => ascii "idiv"
  | moveIfEqual _ _ => ascii "cmove"
  | truncate _ _ => ascii "cvttsd2si"
  | loadVector _ => ascii "movq"
  | floatLoad _ => ascii "fld"
  | floatLoadInteger _ => ascii "fild"
  | floatStore _ => ascii "fstp"
  | floatBinary operation _ => operation.mnemonic
  | floatUnary operation => operation.mnemonic
  | floatStatus => ascii "fnstsw"
  | alignStack _ => ascii "and"
  | jump _ => ascii "jmp"
  | jumpIf condition _ => condition.mnemonic
  | call _ => ascii "call"
  | ret => ascii "ret"
  | breakpoint => ascii "int3"

def operands : Instr → List Operand
  | push register | pop register | decrement register | negate register | divide register =>
      [.register register]
  | move target source | test target source | xor target source | multiply target source
  | moveIfEqual target source => [.register target, .register source]
  | moveValue register value | compare register value | shiftLeft register value =>
      [.register register, .value value]
  | moveHalf register value => [.half register, .value value]
  | xorHalf target source => [.half target, .half source]
  | load register cell | truncate register cell => [.register register, .cell cell]
  | store cell register => [.cell cell, .register register]
  | storeValue cell value | compareCell cell value => [.cell cell, .value value]
  | address register symbol => [.register register, .relative symbol]
  | incrementCell cell | decrementCell cell | floatLoad cell | floatLoadInteger cell
  | floatStore cell | floatBinary _ cell => [.cell cell]
  | loadVector cell => [.vector, .cell cell]
  | floatStatus => [.statusWord]
  | testStatus mask => [.statusHigh, .value mask]
  | alignStack mask => [.stackPointer, .value mask]
  | jump target | jumpIf _ target => [.target target]
  | call function => [.external function]
  | signExtend | floatUnary _ | ret | breakpoint => []

/-- Operands follow the mnemonic after a blank and are separated by commas. -/
def renderOperands : List Operand → Bytes
  | [] => []
  | [operand] => Ascii.space :: operand.render
  | operand :: rest => Ascii.space :: operand.render ++ Ascii.comma :: renderOperands rest

def render (instruction : Instr) : Bytes :=
  instruction.mnemonic ++ renderOperands instruction.operands

end Instr

/-! Lines. -/

def Directive.render : Directive → Bytes
  | intelOperands => ascii ".intel_syntax noprefix"
  | global symbol => ascii ".globl " ++ symbol
  | data => ascii ".data"
  | code => ascii ".text"
  | plainStack => ascii ".section .note.GNU-stack,\"\",@progbits"

/-- A byte inside a quoted text. -/
def escape (byte : UInt8) : Bytes :=
  if byte = Ascii.newline then ascii "\\n"
  else if byte = Ascii.doubleQuote ∨ byte = Ascii.backslash then [Ascii.backslash, byte]
  else [byte]

def Datum.render : Datum → Bytes
  | double literal => ascii ".double " ++ literal
  | quad value => ascii ".quad " ++ .ofNat value
  | text content => ascii ".asciz \"" ++ content.flatMap escape ++ ascii "\""

/-- The text of a line without its end. -/
def Line.render : Line → Bytes
  | blank => []
  | heading text => Ascii.hash :: text
  | remark text => Ascii.tab :: Ascii.hash :: Ascii.space :: text
  | directive order => order.render
  | datum symbol value => symbol ++ ascii ": " ++ value.render
  | label symbol => symbol ++ ascii ":"
  | instr instruction => Ascii.tab :: instruction.render

/-- The text of a file, every line ended. -/
def render (lines : List Line) : Bytes :=
  lines.flatMap fun line => line.render.line

end Rpn.Assembly

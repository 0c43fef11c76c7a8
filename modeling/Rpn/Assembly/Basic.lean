import Rpn.Bytes

/-! Assembly text as data: the part of x86-64 that programs are compiled to, in the order of the
lines of a file. -/

namespace Rpn.Assembly

abbrev Symbol := Bytes

/-- The general registers.  The stack pointer is not among them: only pushing, popping, calling
and aligning change it. -/
inductive Register where
  | rax
  | rbx
  | rcx
  | rdx
  | rsi
  | rdi
  | rbp
  | r8
  | r9
  | r10
  | r11
  | r12
  | r13
  | r14
  | r15
  deriving DecidableEq, Repr

/-- The registers that are also written through their low halves. -/
inductive HalfRegister where
  | eax
  | edi
  deriving DecidableEq, Repr

/-- Conditions of jumps, as tests of the flags. -/
inductive Condition where
  | below
  | above
  | zero
  | notZero
  | overflow
  | greater
  | notGreater
  deriving DecidableEq, Repr

/-- Operations of the floating-point unit on its top and a cell. -/
inductive FloatBinary where
  | add
  | subtract
  | multiply
  | divide
  deriving DecidableEq, Repr

/-- Operations of the floating-point unit on its top.  `sineCosine` leaves the sine there and
puts the cosine above it. -/
inductive FloatUnary where
  | absolute
  | sine
  | cosine
  | squareRoot
  | sineCosine
  deriving DecidableEq, Repr

/-- Machine instructions.  A cell is eight bytes of data, named by its symbol. -/
inductive Instr where
  | push (source : Register)
  | pop (target : Register)
  | move (target source : Register)
  | moveValue (target : Register) (value : Int)
  | moveHalf (target : HalfRegister) (value : Int)
  | load (target : Register) (cell : Symbol)
  | store (cell : Symbol) (source : Register)
  | storeValue (cell : Symbol) (value : Int)
  | address (target : Register) (symbol : Symbol)
  | compareCell (cell : Symbol) (value : Int)
  | compare (left : Register) (value : Int)
  | test (left right : Register)
  | incrementCell (cell : Symbol)
  | decrementCell (cell : Symbol)
  | decrement (target : Register)
  | negate (target : Register)
  | shiftLeft (target : Register) (count : Int)
  | xor (target source : Register)
  | xorHalf (target source : HalfRegister)
  | multiply (target source : Register)
  | signExtend
  | divide (divisor : Register)
  | moveIfEqual (target source : Register)
  | truncate (target : Register) (cell : Symbol)
  | loadVector (cell : Symbol)
  | floatLoad (cell : Symbol)
  | floatLoadInteger (cell : Symbol)
  | floatStore (cell : Symbol)
  | floatBinary (operation : FloatBinary) (cell : Symbol)
  | floatUnary (operation : FloatUnary)
  | floatStatus
  | testStatus (mask : Int)
  | alignStack (mask : Int)
  | jump (target : Symbol)
  | jumpIf (condition : Condition) (target : Symbol)
  | call (function : Symbol)
  | ret
  | breakpoint
  deriving DecidableEq, Repr

inductive Directive where
  | intelOperands
  | global (symbol : Symbol)
  | data
  | code
  | plainStack
  deriving DecidableEq, Repr

/-- What a data line puts at its symbol. -/
inductive Datum where
  | double (literal : Bytes)
  | quad (value : Nat)
  | text (content : Bytes)
  deriving DecidableEq, Repr

inductive Line where
  | blank
  | heading (text : Bytes)
  | remark (text : Bytes)
  | directive (order : Directive)
  | datum (symbol : Symbol) (value : Datum)
  | label (symbol : Symbol)
  | instr (instruction : Instr)
  deriving DecidableEq, Repr

end Rpn.Assembly

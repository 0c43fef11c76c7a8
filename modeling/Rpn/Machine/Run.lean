import Rpn.Machine.State

/-! Running assembly lines.  A program counter is the list of the lines that follow. -/

namespace Rpn.Machine

open Assembly

/-- What the machine takes from its surroundings: where symbols are, and what a called function
leaves in the registers and in the memory that it may use. -/
structure Platform where
  address : Symbol → Word
  register : Register → Word
  vector : Word
  memory : Int → Word

variable {unit : FloatUnit}

/-- The full register of a half. -/
def full : HalfRegister → Register
  | .eax => .rax
  | .edi => .rdi

/-- A value in a low half; the high half is zero then. -/
def halfWord (value : BitVec 32) : Word :=
  value.setWidth 64

/-- The status word of the floating-point unit shows a refused operand in its bit 10. -/
def statusWord (outOfRange : Bool) (before : Word) : Word :=
  before &&& ~~~0xffff#64 ||| (if outOfRange then 0x400#64 else 0)

/-- Put a result in the place of the top of the floating-point unit, or mark a refused operand. -/
def replaceTop (state : State unit) (rest : List unit.Extended)
    (result? : Option (List unit.Extended)) : Option (State unit) :=
  match result? with
  | none => some { state with outOfRange := true }
  | some values =>
      if values.length + rest.length ≤ 8 then
        some { state with floats := values ++ rest, outOfRange := false }
      else none

/-- The effect of an instruction that goes on to the next line.  There is none for a trap, for an
undefined symbol or flag, and for a full or empty floating-point unit. -/
def effect (platform : Platform) (state : State unit) : Instr → Option (State unit)
  | .push source => some (state.push (state.registers source))
  | .pop target =>
      let (value, state) := state.pop
      some (state.set target value)
  | .move target source => some (state.set target (state.registers source))
  | .moveValue target value => some (state.set target (.ofInt 64 value))
  | .moveHalf target value => some (state.set (full target) (halfWord (.ofInt 32 value)))
  | .load target cell => do return state.set target (← state.cells cell)
  | .store cell source => do
      let _ ← state.cells cell
      return state.setCell cell (state.registers source)
  | .storeValue cell value => do
      let _ ← state.cells cell
      return state.setCell cell (.ofInt 64 value)
  | .address target symbol => some (state.set target (platform.address symbol))
  | .compareCell cell value => do
      return state.setFlags (.ofComparison (← state.cells cell) (.ofInt 64 value))
  | .compare left value =>
      some (state.setFlags (.ofComparison (state.registers left) (.ofInt 64 value)))
  | .test left right =>
      some (state.setFlags (.ofLogic (state.registers left &&& state.registers right)))
  | .incrementCell cell => do
      let value ← state.cells cell
      return (state.setCell cell (value + 1)).setFlags
        (.ofResult (value + 1) state.flags.carry (some (BitVec.saddOverflow value 1)))
  | .decrementCell cell => do
      let value ← state.cells cell
      return (state.setCell cell (value - 1)).setFlags
        (.ofResult (value - 1) state.flags.carry (some (BitVec.ssubOverflow value 1)))
  | .decrement target =>
      let value := state.registers target
      some ((state.set target (value - 1)).setFlags
        (.ofResult (value - 1) state.flags.carry (some (BitVec.ssubOverflow value 1))))
  | .negate target =>
      let value := state.registers target
      some ((state.set target (-value)).setFlags
        (.ofResult (-value) (some (value != 0)) (some (BitVec.negOverflow value))))
  | .shiftLeft target count =>
      let value := state.registers target
      if count = 1 then
        some ((state.set target (value <<< 1)).setFlags
          (.ofResult (value <<< 1) (some value.msb) (some ((value <<< 1).msb != value.msb))))
      else none
  | .xor target source =>
      let value := state.registers target ^^^ state.registers source
      some ((state.set target value).setFlags (.ofLogic value))
  | .xorHalf target source =>
      let value := halfWord ((state.registers (full target)).setWidth 32 ^^^
        (state.registers (full source)).setWidth 32)
      some ((state.set (full target) value).setFlags (.ofLogic value))
  | .multiply target source =>
      let left := state.registers target
      let right := state.registers source
      let overflow := some (BitVec.smulOverflow left right)
      some ((state.set target (left * right)).setFlags ⟨none, overflow, none, overflow⟩)
  | .signExtend =>
      some (state.set .rdx (if (state.registers .rax).msb then .allOnes 64 else 0))
  | .divide divisor =>
      let dividend := (state.registers .rdx ++ state.registers .rax).toInt
      let divisor := (state.registers divisor).toInt
      let quotient := dividend.tdiv divisor
      if divisor = 0 ∨ (BitVec.ofInt 64 quotient).toInt ≠ quotient then none
      else
        some (((state.set .rax (.ofInt 64 quotient)).set .rdx
          (.ofInt 64 (dividend.tmod divisor))).setFlags {})
  | .moveIfEqual target source => do
      return if ← state.flags.zero then state.set target (state.registers source) else state
  | .truncate target cell => do return state.set target (unit.truncate (← state.cells cell))
  | .loadVector cell => do return { state with vector := ← state.cells cell }
  | .floatLoad cell => do state.pushFloat? (unit.load (← state.cells cell))
  | .floatLoadInteger cell => do state.pushFloat? (unit.loadInteger (← state.cells cell))
  | .floatStore cell => do
      let _ ← state.cells cell
      match state.floats with
      | top :: rest => return { state.setCell cell (unit.store top) with floats := rest }
      | [] => none
  | .floatBinary operation cell => do
      let operand ← state.cells cell
      match state.floats with
      | top :: rest => return { state with floats := unit.binary operation top operand :: rest }
      | [] => none
  | .floatUnary operation =>
      match state.floats with
      | [] => none
      | top :: rest =>
          match operation with
          | .absolute => replaceTop state rest (some [unit.absolute top])
          | .squareRoot => replaceTop state rest (some [unit.squareRoot top])
          | .sine => replaceTop state rest ((unit.sine? top).map ([·]))
          | .cosine => replaceTop state rest ((unit.cosine? top).map ([·]))
          | .sineCosine =>
              replaceTop state rest
                ((unit.sineCosine? top).map fun (sine, cosine) => [cosine, sine])
  | .floatStatus => some (state.set .rax (statusWord state.outOfRange (state.registers .rax)))
  | .testStatus mask =>
      let high := (state.registers .rax >>> 8) &&& 0xff#64
      some (state.setFlags (.ofLogic (high &&& .ofInt 64 mask)))
  | .alignStack mask =>
      if mask < 0 then
        some { state with stackPointer := state.stackPointer - state.stackPointer % (-mask) }
      else none
  | .jump _ | .jumpIf _ _ | .call _ | .ret | .breakpoint => none

/-- Where a run of the machine is. -/
inductive Position (unit : FloatUnit) where
  | running (state : State unit) (rest : List Line)
  | returned (state : State unit) (target : Word)
  | exited (state : State unit)

/-- The lines after a label. -/
def codeAt? (symbol : Symbol) : List Line → Option (List Line)
  | [] => none
  | .label name :: rest => if name = symbol then some rest else codeAt? symbol rest
  | _ :: rest => codeAt? symbol rest

/-- The registers that a called function need not keep. -/
def isCallerSaved : Register → Bool
  | .rax | .rcx | .rdx | .rsi | .rdi | .r8 | .r9 | .r10 | .r11 => true
  | .rbx | .rbp | .r12 | .r13 | .r14 | .r15 => false

/-- The state after a function returned: of the registers and the memory it keeps what it must. -/
def afterCall (platform : Platform) (state : State unit) : State unit :=
  { state with
    registers := fun register =>
      if isCallerSaved register then platform.register register else state.registers register
    vector := platform.vector
    memory := fun address =>
      if address < state.stackPointer then platform.memory address else state.memory address
    flags := {} }

/-- Call a function of the system.  The stack pointer must be a multiple of 16. -/
def call (platform : Platform) (state : State unit) (function : Symbol) (rest : List Line) :
    Option (Position unit) :=
  if state.stackPointer % 16 ≠ 0 then none
  else if function = ascii "printf" then
    let call : Printed := ⟨state.registers .rdi, state.registers .rax, state.vector⟩
    some (.running { afterCall platform state with printed := state.printed ++ [call] } rest)
  else if function = ascii "exit" then some (.exited state)
  else none

/-- One line of a file.  Nothing follows where the machine cannot go on. -/
def step (platform : Platform) (file : List Line) (state : State unit) :
    List Line → Option (Position unit)
  | [] => none
  | .instr (.jump target) :: _ => do return .running state (← codeAt? target file)
  | .instr (.jumpIf condition target) :: rest => do
      if ← state.flags.test condition then return .running state (← codeAt? target file)
      else return .running state rest
  | .instr (.call function) :: rest => call platform state function rest
  | .instr .ret :: _ =>
      let (target, state) := state.pop
      some (.returned state target)
  | .instr instruction :: rest => do return .running (← effect platform state instruction) rest
  | .blank :: rest | .heading _ :: rest | .remark _ :: rest | .label _ :: rest =>
      some (.running state rest)
  | .directive _ :: _ | .datum _ _ :: _ => none

/-- Run for at most a number of lines, up to the end of the program. -/
def run (platform : Platform) (file : List Line) : Nat → Position unit → Option (Position unit)
  | _, .returned state target => some (.returned state target)
  | _, .exited state => some (.exited state)
  | 0, .running _ _ => none
  | bound + 1, .running state rest => do
      run platform file bound (← step platform file state rest)

/-! Starting a file. -/

def datumWord (unit : FloatUnit) : Datum → Option Word
  | .double literal => some (unit.literal literal)
  | .quad value => some (.ofNat 64 value)
  | .text _ => none

/-- The cells that a file defines. -/
def cells (unit : FloatUnit) (symbol : Symbol) : List Line → Option Word
  | [] => none
  | .datum name value :: rest =>
      if name = symbol then datumWord unit value else cells unit symbol rest
  | _ :: rest => cells unit symbol rest

/-- The state in which a program is entered: its caller's return address is on the stack. -/
def entryState (unit : FloatUnit) (file : List Line) (registers : Register → Word) (vector : Word)
    (stackPointer : Int) (memory : Int → Word) : State unit :=
  { registers, vector, stackPointer, memory, cells := fun symbol => cells unit symbol file
    flags := {}, floats := [], outOfRange := false, printed := [] }

end Rpn.Machine

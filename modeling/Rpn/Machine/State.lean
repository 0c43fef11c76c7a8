import Rpn.FloatUnit

/-! States of the machine that runs assembly lines. -/

namespace Rpn.Machine

open Assembly

/-- Flags after an instruction.  A flag that the instruction leaves undefined has no value. -/
structure Flags where
  zero : Option Bool := none
  carry : Option Bool := none
  sign : Option Bool := none
  overflow : Option Bool := none
  deriving DecidableEq, Repr

namespace Flags

/-- Flags that show a result. -/
def ofResult (value : Word) (carry overflow : Option Bool) : Flags :=
  ⟨some (value == 0), carry, some value.msb, overflow⟩

/-- Flags after the comparison of two words. -/
def ofComparison (left right : Word) : Flags :=
  ofResult (left - right) (some (left.ult right))
    (some (BitVec.ssubOverflow left right))

/-- Flags after a bitwise operation. -/
def ofLogic (value : Word) : Flags :=
  ofResult value (some false) (some false)

/-- Whether a condition holds; no answer if it depends on an undefined flag. -/
def test (flags : Flags) : Condition → Option Bool
  | .below => flags.carry
  | .above => do return !(← flags.carry) && !(← flags.zero)
  | .zero => flags.zero
  | .notZero => do return !(← flags.zero)
  | .overflow => flags.overflow
  | .greater => do return !(← flags.zero) && (← flags.sign) == (← flags.overflow)
  | .notGreater => do return (← flags.zero) || (← flags.sign) != (← flags.overflow)

end Flags

/-- A call of the printing function: its format, the number of vector arguments, and the first of
them. -/
structure Printed where
  format : Word
  count : Word
  value : Word
  deriving DecidableEq, Repr

/-- The stack grows downwards and has no end.  `floats` are the registers of the floating-point
unit, its top first, and `outOfRange` tells that its last operation refused its operand. -/
structure State (unit : FloatUnit) where
  registers : Register → Word
  vector : Word
  stackPointer : Int
  memory : Int → Word
  cells : Symbol → Option Word
  flags : Flags
  floats : List unit.Extended
  outOfRange : Bool
  printed : List Printed

namespace State

variable {unit : FloatUnit}

def set (state : State unit) (target : Register) (value : Word) : State unit :=
  { state with
    registers := fun register => if register = target then value else state.registers register }

def setCell (state : State unit) (cell : Symbol) (value : Word) : State unit :=
  { state with cells := fun symbol => if symbol = cell then some value else state.cells symbol }

def setFlags (state : State unit) (flags : Flags) : State unit :=
  { state with flags }

def push (state : State unit) (value : Word) : State unit :=
  let place := state.stackPointer - 8
  { state with
    stackPointer := place
    memory := fun address => if address = place then value else state.memory address }

/-- The word on top of the stack and the state without it. -/
def pop (state : State unit) : Word × State unit :=
  (state.memory state.stackPointer, { state with stackPointer := state.stackPointer + 8 })

/-- The unit has eight registers. -/
def pushFloat? (state : State unit) (value : unit.Extended) : Option (State unit) :=
  if state.floats.length < 8 then some { state with floats := value :: state.floats } else none

@[simp] theorem registers_set_same (state : State unit) (target : Register) (value : Word) :
    (state.set target value).registers target = value := by
  simp [set]

@[simp] theorem registers_set_other (state : State unit) {register target : Register}
    (value : Word) (different : register ≠ target) :
    (state.set target value).registers register = state.registers register := by
  simp [set, different]

@[simp] theorem cells_setCell_same (state : State unit) (cell : Symbol) (value : Word) :
    (state.setCell cell value).cells cell = some value := by
  simp [setCell]

@[simp] theorem cells_setCell_other (state : State unit) {symbol cell : Symbol}
    (value : Word) (different : symbol ≠ cell) :
    (state.setCell cell value).cells symbol = state.cells symbol := by
  simp [setCell, different]

end State

end Rpn.Machine

import Rpn.Codegen.File
import Rpn.Evaluation
import Rpn.Proofs.Codegen.Names
import Rpn.Proofs.Machine.Steps

/-! Code that carries out a computation which may fail, and what it keeps on its way. -/

namespace Rpn.Machine

open Assembly Codegen Evaluation

variable {unit : FloatUnit} {platform : Platform} {file : List Line}

/-! Outcomes. -/

def handlerOf : Failure → Symbol
  | .tooFew => Handler.tooFew
  | .zeroDivisor => Handler.zeroDivisor
  | .overflow => Handler.overflow
  | .tooMany => Handler.tooMany

/-- The code at a position goes on to a goal with the result of a computation.  If the computation
fails, the code gets to the handler of the failure and has printed nothing. -/
inductive Leads (platform : Platform) (file : List Line) {α : Type} (start : Position unit) :
    Except Failure α → (α → Position unit → Prop) → Prop
  | done {value : α} {goal : α → Position unit → Prop} {later : Position unit}
      (reaches : Reaches platform file start later) (met : goal value later) :
      Leads platform file start (.ok value) goal
  | failed {failure : Failure} {goal : α → Position unit → Prop} {state : State unit}
      {code : List Line} (found : codeAt? (handlerOf failure) file = some code)
      (silent : state.printed = []) (reaches : Reaches platform file start (.running state code)) :
      Leads platform file start (.error failure) goal

namespace Leads

variable {α β : Type} {outcome : Except Failure α} {goal : α → Position unit → Prop}
  {state next : State unit} {rest : List Line}

theorem of_reaches {start later : Position unit} (reaches : Reaches platform file start later)
    (leads : Leads platform file later outcome goal) :
    Leads platform file start outcome goal := by
  cases leads with
  | done further met => exact .done (reaches.trans further) met
  | failed found silent further => exact .failed found silent (reaches.trans further)

/-- Computations follow each other as their code does. -/
theorem bind {start : Position unit} {after : α → Except Failure β}
    {final : β → Position unit → Prop} (leads : Leads platform file start outcome goal)
    (later : ∀ value, outcome = .ok value → ∀ position, goal value position →
      Leads platform file position (after value) final) :
    Leads platform file start (outcome >>= after) final := by
  cases leads with
  | done reaches met => exact (later _ rfl _ met).of_reaches reaches
  | failed found silent reaches => exact .failed found silent reaches

theorem further {start : Position unit} {final : α → Position unit → Prop}
    (leads : Leads platform file start outcome goal)
    (later : ∀ value position, goal value position →
      ∃ last, Reaches platform file position last ∧ final value last) :
    Leads platform file start outcome final := by
  cases leads with
  | done reaches met =>
      obtain ⟨last, onwards, reached⟩ := later _ _ met
      exact .done (reaches.trans onwards) reached
  | failed found silent reaches => exact .failed found silent reaches

theorem instr {instruction : Instr} (done : effect platform state instruction = some next)
    (later : Leads platform file (.running next rest) outcome goal) :
    Leads platform file (.running state (.instr instruction :: rest)) outcome goal :=
  later.of_reaches (.instr done)

theorem skip {condition : Condition} {target : Symbol}
    (fails : state.flags.test condition = some false)
    (later : Leads platform file (.running state rest) outcome goal) :
    Leads platform file (.running state (.instr (.jumpIf condition target) :: rest)) outcome goal :=
  later.of_reaches (.jumpIf_false fails)

theorem fail (failure : Failure) {condition : Condition} {code : List Line}
    (holds : state.flags.test condition = some true)
    (found : codeAt? (handlerOf failure) file = some code) (silent : state.printed = []) :
    Leads platform file (.running state (.instr (.jumpIf condition (handlerOf failure)) :: rest))
      (.error failure) goal :=
  .failed found silent (.jumpIf_true holds found)

end Leads

/-! The stack in memory. -/

/-- Words one after the other from an address upwards. -/
def Stacked (memory : Int → Word) : Int → List Word → Prop
  | _, [] => True
  | address, word :: words => memory address = word ∧ Stacked memory (address + 8) words

theorem Stacked.congr {memory other : Int → Word} {address : Int} {words : List Word}
    (stacked : Stacked memory address words)
    (same : ∀ place, address ≤ place → other place = memory place) :
    Stacked other address words := by
  induction words generalizing address with
  | nil => trivial
  | cons word words induction =>
      obtain ⟨top, below⟩ := stacked
      refine ⟨(same address (Int.le_refl _)).trans top, induction below fun place above => ?_⟩
      exact same place (by omega)

/-! What the code of a program keeps. -/

/-- What is fixed while a program runs: where the stack of values begins and what lies below it,
the registers of the caller, and the literals that are at hand. -/
structure Frame where
  base : Int
  bottom : List Word
  registers : Register → Word
  literals : List Bytes

theorem ne_of_isCallerSaved {register free : Register} (saved : isCallerSaved register = false)
    (callerSaved : isCallerSaved free = true) : register ≠ free := by
  rintro rfl
  exact Bool.noConfusion (saved.symm.trans callerSaved)

/-- The cells that a block may use for itself. -/
def scratch : List Symbol :=
  [Cell.first, Cell.second, Cell.integer]

/-- A state of a running program with its values on the stack and some numbers in the
floating-point unit.  Inside a block the depth that is counted may differ from the stack. -/
structure Holds (frame : Frame) (state : State unit) (depth : Nat) (stack : List Word)
    (floats : List unit.Extended) : Prop where
  stacked : Stacked state.memory state.stackPointer (stack ++ frame.bottom)
  pointer : state.stackPointer + 8 * stack.length = frame.base
  depth : state.cells Cell.depth = some (.ofNat 64 depth)
  scratch : ∀ cell ∈ scratch, (state.cells cell).isSome = true
  constants : ∀ literal ∈ frame.literals,
    state.cells (constantSymbol literal) = some (unit.literal literal)
  registers : ∀ register, isCallerSaved register = false →
    state.registers register = frame.registers register
  floats : state.floats = floats
  printed : state.printed = []

namespace Holds

variable {frame : Frame} {state next : State unit} {depth : Nat} {stack : List Word}
  {floats others : List unit.Extended}

/-- Registers that a function need not keep and scratch cells may change. -/
theorem change (holds : Holds frame state depth stack floats)
    (memory : next.memory = state.memory) (pointer : next.stackPointer = state.stackPointer)
    (registers : ∀ register, isCallerSaved register = false →
      next.registers register = state.registers register)
    (cells : ∀ cell, cell ∉ Machine.scratch → next.cells cell = state.cells cell)
    (defined : ∀ cell ∈ Machine.scratch, (next.cells cell).isSome = true)
    (floatsNow : next.floats = others) (printed : next.printed = state.printed) :
    Holds frame next depth stack others where
  stacked := by
    rw [memory, pointer]
    exact holds.stacked
  pointer := by
    rw [pointer]
    exact holds.pointer
  depth := by
    rw [cells _ (by decide)]
    exact holds.depth
  scratch := defined
  constants := by
    intro literal member
    have other : constantSymbol literal ∉ Machine.scratch := by
      intro inside
      have all : ∀ cell ∈ Machine.scratch, cell.head? ≠ some 99 := by decide
      exact all _ inside (head?_constantSymbol literal)
    rw [cells _ other]
    exact holds.constants literal member
  registers := fun register saved =>
    (registers register saved).trans (holds.registers register saved)
  floats := floatsNow
  printed := printed.trans holds.printed

theorem setFlags (holds : Holds frame state depth stack floats) (flags : Flags) :
    Holds frame (state.setFlags flags) depth stack floats :=
  holds.change rfl rfl (fun _ _ => rfl) (fun _ _ => rfl) holds.scratch holds.floats rfl

theorem set (holds : Holds frame state depth stack floats) {target : Register}
    (free : isCallerSaved target = true) (value : Word) :
    Holds frame (state.set target value) depth stack floats := by
  refine holds.change rfl rfl (fun register saved => ?_) (fun _ _ => rfl) holds.scratch
    holds.floats rfl
  exact state.registers_set_other value (ne_of_isCallerSaved saved free)

theorem setCell (holds : Holds frame state depth stack floats) {cell : Symbol}
    (member : cell ∈ Machine.scratch) (value : Word) :
    Holds frame (state.setCell cell value) depth stack floats := by
  refine holds.change rfl rfl (fun _ _ => rfl) (fun other outside => ?_) (fun other inside => ?_)
    holds.floats rfl
  · exact state.cells_setCell_other value fun equal => outside (equal ▸ member)
  · by_cases equal : other = cell
    · simp [equal]
    · rw [state.cells_setCell_other value equal]
      exact holds.scratch other inside

theorem setFloats (holds : Holds frame state depth stack floats) (values : List unit.Extended) :
    Holds frame { state with floats := values } depth stack values :=
  holds.change rfl rfl (fun _ _ => rfl) (fun _ _ => rfl) holds.scratch rfl rfl

theorem setDepth (holds : Holds frame state depth stack floats) (count : Nat) :
    Holds frame (state.setCell Cell.depth (.ofNat 64 count)) count stack floats where
  stacked := holds.stacked
  pointer := holds.pointer
  depth := state.cells_setCell_same _ _
  scratch := by
    intro cell member
    have all : ∀ cell ∈ Machine.scratch, cell ≠ Cell.depth := by decide
    rw [state.cells_setCell_other _ (all cell member)]
    exact holds.scratch cell member
  constants := by
    intro literal member
    have other : constantSymbol literal ≠ Cell.depth := by
      intro equal
      have first := head?_constantSymbol literal
      rw [equal] at first
      exact absurd first (by decide)
    rw [state.cells_setCell_other _ other]
    exact holds.constants literal member
  registers := holds.registers
  floats := holds.floats
  printed := holds.printed

theorem push (holds : Holds frame state depth stack floats) (value : Word) :
    Holds frame (state.push value) depth (value :: stack) floats where
  stacked := by
    refine ⟨if_pos rfl, ?_⟩
    have above : state.stackPointer - 8 + 8 = state.stackPointer := by omega
    change Stacked _ (state.stackPointer - 8 + 8) _
    rw [above]
    refine holds.stacked.congr fun place below => if_neg ?_
    omega
  pointer := by
    have before := holds.pointer
    change state.stackPointer - 8 + 8 * ((stack.length + 1 : Nat) : Int) = frame.base
    omega
  depth := holds.depth
  scratch := holds.scratch
  constants := holds.constants
  registers := holds.registers
  floats := holds.floats
  printed := holds.printed

theorem top {value : Word} (holds : Holds frame state depth (value :: stack) floats) :
    state.pop.1 = value :=
  holds.stacked.1

theorem pop {value : Word} (holds : Holds frame state depth (value :: stack) floats) :
    Holds frame state.pop.2 depth stack floats where
  stacked := holds.stacked.2
  pointer := by
    have before := holds.pointer
    rw [List.length_cons] at before
    change state.stackPointer + 8 + 8 * (stack.length : Int) = frame.base
    omega
  depth := holds.depth
  scratch := holds.scratch
  constants := holds.constants
  registers := holds.registers
  floats := holds.floats
  printed := holds.printed

end Holds

end Rpn.Machine

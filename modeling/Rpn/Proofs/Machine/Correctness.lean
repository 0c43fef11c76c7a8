import Rpn.Proofs.Codegen.Namespace
import Rpn.Proofs.Machine.Ending

/-! A compiled program computes what its operations mean. -/

namespace Rpn.Machine

open Assembly Codegen Evaluation

variable {unit : FloatUnit} {platform : Platform} {registers : Register → Word}
  {stackPointer : Int} {memory : Int → Word}

/-- A program that is entered with a return address on the stack ends as its outcome says. -/
inductive Ends (platform : Platform) (registers : Register → Word) (stackPointer : Int)
    (memory : Int → Word) : Except Failure Word → Position unit → Prop
  | returned {value : Word} {final : State unit}
      (returns : Returns platform registers stackPointer value final) :
      Ends platform registers stackPointer memory (.ok value)
        (.returned final (memory stackPointer))
  | exited {failure : Failure} {final : State unit} (exits : Exits platform failure final) :
      Ends platform registers stackPointer memory (.error failure) (.exited final)

theorem Ends.isFinal {outcome : Except Failure Word} {final : Position unit}
    (ends : Ends platform registers stackPointer memory outcome final) : final.IsFinal := by
  cases ends <;> trivial

/-! The entry. -/

/-- The lines of a file before its entry. -/
def prologue (pool : ConstantPool) : List Line :=
  preamble ++ Codegen.cells ++ constants pool ++ messages ++ [.directive .code]

theorem lines_eq_prologue_append (pool : ConstantPool) (operations : List Operation) :
    lines false pool operations =
      prologue pool ++ .label entry :: .instr (.push .rbp) :: .instr (.storeValue Cell.depth 0) ::
        (blocksFrom 0 operations ++ footer) := by
  simp [lines, header, start, debugBreak, prologue]

/-- The program's frame: its caller's frame pointer is saved above the return address. -/
def entryFrame (pool : ConstantPool) (registers : Register → Word) (stackPointer : Int)
    (memory : Int → Word) : Frame where
  base := stackPointer - 8
  bottom := [registers .rbp, memory stackPointer]
  registers := registers
  literals := pool.literals

theorem effect_storeValue {state : State unit} {cell : Symbol} {before : Word} (value : Int)
    (found : state.cells cell = some before) :
    effect platform state (.storeValue cell value) =
      some (state.setCell cell (.ofInt 64 value)) := by
  simp [effect, found]

theorem cells_entry {file : List Line} {vector : Word} {symbol : Symbol} {value : Datum}
    (once : (defined file).Nodup) (stored : .datum symbol value ∈ file) :
    ((entryState unit file registers vector stackPointer memory).push (registers .rbp)).cells
      symbol = datumWord unit value :=
  cells_of_once once stored

theorem holds_entry {file : List Line} {pool : ConstantPool} (vector : Word)
    (once : (defined file).Nodup) (inside : ∀ line ∈ header false pool, line ∈ file) :
    Holds (entryFrame pool registers stackPointer memory)
      ((entryState unit file registers vector stackPointer memory).push (registers .rbp)) 0 [] []
    where
  stacked := by
    refine ⟨if_pos rfl, (if_neg ?_).trans ?_, trivial⟩
    · change stackPointer - 8 + 8 ≠ stackPointer - 8
      omega
    · change memory (stackPointer - 8 + 8) = memory stackPointer
      rw [Int.sub_add_cancel]
  pointer := Int.add_zero _
  depth := by
    have stored : .datum Cell.depth (.quad 0) ∈ fixedHeader false := by decide
    exact cells_entry once (inside _ (mem_header.mpr (.inl stored)))
  scratch := by
    intro cell member
    have numeric : ∀ cell ∈ scratch, .datum cell (.double (ascii "0.0")) ∈ fixedHeader false ∨
        .datum cell (.quad 0) ∈ fixedHeader false := by decide
    rcases numeric cell member with stored | stored
    · rw [cells_entry once (inside _ (mem_header.mpr (.inl stored)))]
      rfl
    · rw [cells_entry once (inside _ (mem_header.mpr (.inl stored)))]
      rfl
  constants := fun literal member => cells_entry once (inside _ (datum_mem_header false member))
  registers := fun _ _ => rfl
  floats := rfl
  printed := rfl

/-! Whole programs. -/

/-- From the entry on, a program computes what its operations mean. -/
theorem leads_program {file : List Line} {pool : ConstantPool} {operations : List Operation}
    (unit : FloatUnit) (platform : Platform) (registers : Register → Word) (vector : Word)
    (aligned : stackPointer % 16 = 8) (memory : Int → Word) (once : (defined file).Nodup)
    (inside : ∀ line ∈ header false pool, line ∈ file) (handled : Handled file)
    (placed : blocksFrom 0 operations ++ footer <:+ file)
    (pushed : ∀ literal, .push literal ∈ operations → literal ∈ pool.literals)
    (bounded : operations.length < 2 ^ 64) :
    Leads platform file
      (.running (entryState unit file registers vector stackPointer memory)
        (.instr (.push .rbp) :: .instr (.storeValue Cell.depth 0) ::
          (blocksFrom 0 operations ++ footer)))
      (evaluate unit operations)
      (fun value position => ∃ final, position = .returned final (memory stackPointer) ∧
        Returns platform registers stackPointer value final) := by
  have entered : Holds (entryFrame pool registers stackPointer memory)
      ((entryState unit file registers vector stackPointer memory).push (registers .rbp)) 0 [] [] :=
    holds_entry vector once inside
  refine .instr rfl (.instr (effect_storeValue 0 entered.depth) ?_)
  refine .bind (leads_blocks handled once placed pushed (entered.setDepth 0) (by simpa))
    fun stack _ position reached => ?_
  obtain ⟨⟨next, rfl, ready⟩, small⟩ := reached
  exact leads_finish handled aligned rfl rfl ready small

/-- A program that gets to a handler ends there. -/
theorem Leads.exists_end {file rest : List Line} {start : Position unit}
    {outcome : Except Failure Word} (once : (defined file).Nodup)
    (placed : handlers ++ rest <:+ file)
    (leads : Leads platform file start outcome fun value position =>
      ∃ final, position = .returned final (memory stackPointer) ∧
        Returns platform registers stackPointer value final) :
    ∃ final, Reaches platform file start final ∧
      Ends platform registers stackPointer memory outcome final := by
  cases leads with
  | done reaches met =>
      obtain ⟨final, rfl, returns⟩ := met
      exact ⟨_, reaches, .returned returns⟩
  | @failed failure _ state code found silent reaches =>
      obtain ⟨handler, foundHandler, exiting⟩ := exists_handler once placed failure
      cases found.symm.trans foundHandler
      obtain ⟨final, onwards, exits⟩ := exiting unit platform state silent
      exact ⟨_, reaches.trans onwards, .exited exits⟩

theorem exists_end_lines {pool : ConstantPool} {operations : List Operation} (unit : FloatUnit)
    (platform : Platform) (registers : Register → Word) (vector : Word)
    (aligned : stackPointer % 16 = 8) (memory : Int → Word)
    (numbers : ∀ literal ∈ pool.literals, Token.IsNumber literal)
    (pushed : ∀ literal, .push literal ∈ operations → literal ∈ pool.literals)
    (bounded : operations.length < 2 ^ 64) :
    ∃ code final,
      codeAt? entry (lines false pool operations) = some code ∧
      Reaches platform (lines false pool operations)
        (.running (entryState unit (lines false pool operations) registers vector stackPointer
          memory) code) final ∧
      Ends platform registers stackPointer memory (evaluate unit operations) final := by
  have once := nodup_defined_lines false operations numbers
  have atEntry := List.suffix_append (prologue pool) (.label entry :: .instr (.push .rbp) ::
    .instr (.storeValue Cell.depth 0) :: (blocksFrom 0 operations ++ footer))
  rw [← lines_eq_prologue_append] at atEntry
  have atBlocks : blocksFrom 0 operations ++ footer <:+ lines false pool operations :=
    ⟨header false pool, by simp [lines]⟩
  have atHandlers : handlers ++ [.directive .plainStack] <:+ lines false pool operations :=
    ⟨header false pool ++ blocksFrom 0 operations ++ finish, by simp [lines, footer]⟩
  have leads := leads_program unit platform registers vector aligned memory once
    (fun _ => mem_lines_of_mem_header) (handled_of_suffix once atHandlers) atBlocks pushed bounded
  obtain ⟨final, reaches, ends⟩ := leads.exists_end once atHandlers
  exact ⟨_, final, codeAt?_of_suffix once atEntry, reaches, ends⟩

/-- The text of a failure's message. -/
def diagnostic : Failure → Bytes
  | .tooFew => ascii "Insufficient entries on the stack.  Aborting\n"
  | .zeroDivisor => ascii "Attempted division by zero.  Aborting\n"
  | .overflow => ascii "Overflow - value out of range.  Aborting\n"
  | .tooMany => ascii "Too many entries remaining on the stack.  Aborting\n"

theorem diagnostic_mem_header (pool : ConstantPool) (failure : Failure) :
    .datum (messageOf failure) (.text (diagnostic failure)) ∈ header false pool := by
  refine mem_header.mpr (.inl ?_)
  cases failure <;> decide

/-- A unit whose words are integers. -/
def integerUnit : FloatUnit where
  Extended := Int
  literal text := .ofNat 64 (text.toNat?.getD 0)
  load := BitVec.toInt
  loadInteger := BitVec.toInt
  store := BitVec.ofInt 64
  binary
    | .add, left, right => left + right.toInt
    | .subtract, left, right => left - right.toInt
    | .multiply, left, right => left * right.toInt
    | .divide, left, right => left.tdiv right.toInt
  absolute value := value.natAbs
  squareRoot value := value.toNat.sqrt
  sine? _ := none
  cosine? _ := none
  sineCosine? _ := none
  truncate := id

end Rpn.Machine

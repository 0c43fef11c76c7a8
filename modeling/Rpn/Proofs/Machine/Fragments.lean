import Rpn.Proofs.Machine.Integers
import Rpn.Proofs.Machine.Simulation

/-! The steps that the blocks of operations share. -/

namespace Rpn.Codegen

open Assembly

@[simp] theorem instrs_nil : instrs [] = [] :=
  rfl

@[simp] theorem instrs_cons (instruction : Instr) (rest : List Instr) :
    instrs (instruction :: rest) = .instr instruction :: instrs rest :=
  rfl

@[simp] theorem instrs_append (first second : List Instr) :
    instrs (first ++ second) = instrs first ++ instrs second :=
  List.map_append

end Rpn.Codegen

namespace Rpn.Machine

open Assembly Codegen Evaluation

variable {unit : FloatUnit} {platform : Platform} {file : List Line}

/-! Instructions with cells. -/

section Effects

variable {state : State unit} {cell : Symbol} {value : Word}

theorem effect_load (target : Register) (found : state.cells cell = some value) :
    effect platform state (.load target cell) = some (state.set target value) := by
  simp [effect, found]

theorem effect_store (source : Register) (defined : (state.cells cell).isSome = true) :
    effect platform state (.store cell source) =
      some (state.setCell cell (state.registers source)) := by
  obtain ⟨value, found⟩ := Option.isSome_iff_exists.mp defined
  simp [effect, found]

theorem effect_compareCell (number : Int) (found : state.cells cell = some value) :
    effect platform state (.compareCell cell number) =
      some (state.setFlags (.ofComparison value (.ofInt 64 number))) := by
  simp [effect, found]

theorem effect_incrementCell (found : state.cells cell = some value) :
    effect platform state (.incrementCell cell) =
      some ((state.setCell cell (value + 1)).setFlags
        (.ofResult (value + 1) state.flags.carry (some (BitVec.saddOverflow value 1)))) := by
  simp [effect, found]

theorem effect_decrementCell (found : state.cells cell = some value) :
    effect platform state (.decrementCell cell) =
      some ((state.setCell cell (value - 1)).setFlags
        (.ofResult (value - 1) state.flags.carry (some (BitVec.ssubOverflow value 1)))) := by
  simp [effect, found]

theorem effect_truncate (target : Register) (found : state.cells cell = some value) :
    effect platform state (.truncate target cell) =
      some (state.set target (unit.truncate value)) := by
  simp [effect, found]

theorem effect_floatLoad (found : state.cells cell = some value)
    (room : state.floats.length < 8) :
    effect platform state (.floatLoad cell) =
      some { state with floats := unit.load value :: state.floats } := by
  simp [effect, found, State.pushFloat?, room]

theorem effect_floatLoadInteger (found : state.cells cell = some value)
    (room : state.floats.length < 8) :
    effect platform state (.floatLoadInteger cell) =
      some { state with floats := unit.loadInteger value :: state.floats } := by
  simp [effect, found, State.pushFloat?, room]

theorem effect_floatStore {top : unit.Extended} {others : List unit.Extended}
    (defined : (state.cells cell).isSome = true) (floats : state.floats = top :: others) :
    effect platform state (.floatStore cell) =
      some { state.setCell cell (unit.store top) with floats := others } := by
  obtain ⟨value, found⟩ := Option.isSome_iff_exists.mp defined
  simp [effect, found, floats]

theorem effect_floatBinary {top : unit.Extended} {others : List unit.Extended}
    (operation : FloatBinary) (found : state.cells cell = some value)
    (floats : state.floats = top :: others) :
    effect platform state (.floatBinary operation cell) =
      some { state with floats := unit.binary operation top value :: others } := by
  simp [effect, found, floats]

theorem effect_clear : effect platform state (.xorHalf .eax .eax) =
    some ((state.set .rax 0).setFlags (.ofLogic 0)) := by
  simp [effect, full, halfWord]

end Effects

section Fragments

variable {frame : Frame} {state : State unit} {depth : Nat} {stack : List Word}
  {floats : List unit.Extended} {α : Type} {outcome : Except Failure α}
  {goal : α → Position unit → Prop} {rest : List Line}

/-! Registers and flags. -/

theorem Leads.assign {instruction : Instr} {target : Register} {value : Word} {flags : Flags}
    (holds : Holds frame state depth stack floats) (free : isCallerSaved target = true)
    (done : effect platform state instruction = some ((state.set target value).setFlags flags))
    (later : ∀ next, Holds frame next depth stack floats → next.registers target = value →
      (∀ other, other ≠ target → next.registers other = state.registers other) →
      next.cells = state.cells → next.flags = flags →
      Leads platform file (.running next rest) outcome goal) :
    Leads platform file (.running state (.instr instruction :: rest)) outcome goal :=
  .instr done (later _ ((holds.set free value).setFlags flags) (state.registers_set_same _ _)
    (fun _ different => state.registers_set_other value different) rfl rfl)

theorem Leads.clear (holds : Holds frame state depth stack floats)
    (later : ∀ next, Holds frame next depth stack floats → next.registers .rax = 0 →
      (∀ other, other ≠ .rax → next.registers other = state.registers other) →
      Leads platform file (.running next rest) outcome goal) :
    Leads platform file (.running state (.instr (.xorHalf .eax .eax) :: rest)) outcome goal := by
  refine .assign holds (by decide) effect_clear fun next holdsNext found others _ _ => ?_
  exact later next holdsNext found others

theorem Leads.compare {instruction : Instr} {flags : Flags}
    (holds : Holds frame state depth stack floats)
    (done : effect platform state instruction = some (state.setFlags flags))
    (later : ∀ next, Holds frame next depth stack floats → next.registers = state.registers →
      next.flags = flags → Leads platform file (.running next rest) outcome goal) :
    Leads platform file (.running state (.instr instruction :: rest)) outcome goal :=
  .instr done (later _ (holds.setFlags flags) rfl rfl)

/-! The number of entries. -/

theorem test_below {left right : Nat} (leftBound : left < 2 ^ 64) (rightBound : right < 2 ^ 64) :
    (Flags.ofComparison (.ofNat 64 left) (.ofInt 64 right)).test .below =
      some (decide (left < right)) := by
  simp only [Flags.ofComparison, Flags.ofResult, Flags.test, BitVec.ofInt_natCast, BitVec.ult,
    BitVec.toNat_ofNat, Nat.mod_eq_of_lt leftBound, Nat.mod_eq_of_lt rightBound]

theorem test_above {left right : Nat} (leftBound : left < 2 ^ 64) (rightBound : right < 2 ^ 64) :
    (Flags.ofComparison (.ofNat 64 left) (.ofInt 64 right)).test .above =
      some (decide (right < left)) := by
  have equal : (BitVec.ofNat 64 left - BitVec.ofNat 64 right == 0) = decide (left = right) := by
    rw [sub_beq_zero, decide_eq_decide, BitVec.toNat_eq, BitVec.toNat_ofNat, BitVec.toNat_ofNat,
      Nat.mod_eq_of_lt leftBound, Nat.mod_eq_of_lt rightBound]
  simp only [Flags.ofComparison, Flags.ofResult, Flags.test, BitVec.ofInt_natCast, equal,
    BitVec.ult, BitVec.toNat_ofNat, Nat.mod_eq_of_lt leftBound, Nat.mod_eq_of_lt rightBound]
  change some (!decide (left < right) && !decide (left = right)) = _
  congr 1
  rw [Bool.eq_iff_iff]
  simp
  omega

theorem Leads.requireEntries (holds : Holds frame state depth stack floats)
    (small : depth < 2 ^ 64) {count : Nat} (enough : count ≤ depth)
    (later : ∀ next, Holds frame next depth stack floats →
      Leads platform file (.running next rest) outcome goal) :
    Leads platform file (.running state (instrs (requireEntries count) ++ rest)) outcome goal := by
  refine .instr (effect_compareCell count holds.depth) (.skip ?_ (later _ (holds.setFlags _)))
  refine (test_below small (by omega)).trans ?_
  simp [Nat.not_lt.mpr enough]

theorem Leads.requireEntries_tooFew {code : List Line}
    (holds : Holds frame state depth stack floats) {count : Nat} (bounded : count < 2 ^ 64)
    (few : depth < count) (found : codeAt? Handler.tooFew file = some code) :
    Leads platform file (.running state (instrs (Codegen.requireEntries count) ++ rest))
      (.error .tooFew) goal := by
  refine .instr (effect_compareCell count holds.depth) (.fail .tooFew ?_ found holds.printed)
  refine (test_below (by omega) bounded).trans ?_
  simp [few]

theorem Leads.incrementDepth (holds : Holds frame state depth stack floats)
    (later : ∀ next, Holds frame next (depth + 1) stack floats →
      Leads platform file (.running next rest) outcome goal) :
    Leads platform file (.running state (.instr (.incrementCell Cell.depth) :: rest))
      outcome goal := by
  refine .instr (effect_incrementCell holds.depth) (later _ (.setFlags ?_ _))
  have sum : BitVec.ofNat 64 depth + 1 = BitVec.ofNat 64 (depth + 1) := by
    simp [BitVec.ofNat_add]
  rw [sum]
  exact holds.setDepth (depth + 1)

theorem Leads.decrementDepth (holds : Holds frame state (depth + 1) stack floats)
    (later : ∀ next, Holds frame next depth stack floats →
      Leads platform file (.running next rest) outcome goal) :
    Leads platform file (.running state (.instr (.decrementCell Cell.depth) :: rest))
      outcome goal := by
  refine .instr (effect_decrementCell holds.depth) (later _ (.setFlags ?_ _))
  have difference : BitVec.ofNat 64 (depth + 1) - 1 = BitVec.ofNat 64 depth := by
    simp [BitVec.ofNat_add]
  rw [difference]
  exact holds.setDepth depth

/-! Values between the stack and the cells. -/

theorem Leads.pop {value : Word} (holds : Holds frame state depth (value :: stack) floats)
    {target : Register} (free : isCallerSaved target = true)
    (later : ∀ next, Holds frame next depth stack floats → next.registers target = value →
      (∀ other, other ≠ target → next.registers other = state.registers other) →
      next.cells = state.cells → Leads platform file (.running next rest) outcome goal) :
    Leads platform file (.running state (.instr (.pop target) :: rest)) outcome goal := by
  refine .instr rfl (later _ (holds.pop.set free _) ?_ (fun other different => ?_) rfl)
  · exact (State.registers_set_same _ _ _).trans holds.top
  · exact State.registers_set_other _ _ different

theorem Leads.push {value : Word} (holds : Holds frame state depth stack floats)
    {source : Register} (found : state.registers source = value)
    (later : ∀ next, Holds frame next depth (value :: stack) floats →
      next.registers = state.registers → Leads platform file (.running next rest) outcome goal) :
    Leads platform file (.running state (.instr (.push source) :: rest)) outcome goal :=
  .instr rfl (later _ (found ▸ holds.push _) rfl)

theorem Leads.store {value : Word} (holds : Holds frame state depth stack floats)
    {cell : Symbol} (member : cell ∈ scratch) {source : Register}
    (found : state.registers source = value)
    (later : ∀ next, Holds frame next depth stack floats → next.cells cell = some value →
      (∀ other, other ≠ cell → next.cells other = state.cells other) →
      Leads platform file (.running next rest) outcome goal) :
    Leads platform file (.running state (.instr (.store cell source) :: rest)) outcome goal := by
  refine .instr (effect_store source (holds.scratch cell member)) ?_
  rw [found]
  exact later _ (holds.setCell member value) (State.cells_setCell_same _ _ _)
    fun other different => State.cells_setCell_other _ _ different

theorem Leads.popInto {value : Word} (holds : Holds frame state depth (value :: stack) floats)
    {cell : Symbol} (member : cell ∈ scratch)
    (later : ∀ next, Holds frame next depth stack floats → next.cells cell = some value →
      (∀ other, other ≠ cell → next.cells other = state.cells other) →
      Leads platform file (.running next rest) outcome goal) :
    Leads platform file (.running state (instrs (popInto cell) ++ rest)) outcome goal := by
  refine .pop holds (by decide) fun popped holdsPopped found _ same => ?_
  refine .store holdsPopped member found fun next holdsNext stored others => ?_
  exact later next holdsNext stored fun other different => same ▸ others other different

theorem Leads.pushFrom {value : Word} (holds : Holds frame state depth stack floats)
    {cell : Symbol} (found : state.cells cell = some value)
    (later : ∀ next, Holds frame next depth (value :: stack) floats →
      Leads platform file (.running next rest) outcome goal) :
    Leads platform file (.running state (instrs (pushFrom cell) ++ rest)) outcome goal := by
  have loaded := holds.set (by decide : isCallerSaved .rax = true) value
  refine .instr (effect_load .rax found) ?_
  exact .push loaded (State.registers_set_same _ _ _) fun next pushed _ => later next pushed

/-! The floating-point unit. -/

theorem Leads.floatLoad {value : Word} (holds : Holds frame state depth stack floats)
    {cell : Symbol} (found : state.cells cell = some value) (room : floats.length < 8)
    (later : ∀ next, Holds frame next depth stack (unit.load value :: floats) →
      next.cells = state.cells → Leads platform file (.running next rest) outcome goal) :
    Leads platform file (.running state (.instr (.floatLoad cell) :: rest)) outcome goal := by
  have loaded := holds.setFloats (unit.load value :: floats)
  rw [← holds.floats] at room loaded
  exact .instr (effect_floatLoad found room) (later _ (holds.floats ▸ loaded) rfl)

theorem Leads.floatStore {top : unit.Extended}
    (holds : Holds frame state depth stack (top :: floats)) {cell : Symbol}
    (member : cell ∈ scratch)
    (later : ∀ next, Holds frame next depth stack floats →
      next.cells cell = some (unit.store top) →
      Leads platform file (.running next rest) outcome goal) :
    Leads platform file (.running state (.instr (.floatStore cell) :: rest)) outcome goal := by
  have stored := (holds.setCell member (unit.store top)).setFloats floats
  exact .instr (effect_floatStore (holds.scratch cell member) holds.floats)
    (later _ stored (state.cells_setCell_same cell _))

theorem Leads.floatBinary {top : unit.Extended} {value : Word}
    (holds : Holds frame state depth stack (top :: floats)) {cell : Symbol}
    (operation : FloatBinary) (found : state.cells cell = some value)
    (later : ∀ next, Holds frame next depth stack (unit.binary operation top value :: floats) →
      Leads platform file (.running next rest) outcome goal) :
    Leads platform file (.running state (.instr (.floatBinary operation cell) :: rest))
      outcome goal :=
  .instr (effect_floatBinary operation found holds.floats) (later _ (holds.setFloats _))

/-- The numbers that an operation puts in the place of the top; none if it refuses the top. -/
def unaryResults (unit : FloatUnit) (top : unit.Extended) : FloatUnary → Option (List unit.Extended)
  | .absolute => some [unit.absolute top]
  | .squareRoot => some [unit.squareRoot top]
  | .sine => (unit.sine? top).map ([·])
  | .cosine => (unit.cosine? top).map ([·])
  | .sineCosine => (unit.sineCosine? top).map fun (sine, cosine) => [cosine, sine]

theorem effect_floatUnary {top : unit.Extended} (operation : FloatUnary)
    (floats : state.floats = [top]) :
    effect platform state (.floatUnary operation) =
      replaceTop state [] (unaryResults unit top operation) := by
  cases operation <;> simp [effect, floats, unaryResults]

theorem Leads.floatUnary {top : unit.Extended} {values : List unit.Extended}
    (holds : Holds frame state depth stack [top]) {operation : FloatUnary}
    (accepted : unaryResults unit top operation = some values) (room : values.length ≤ 8)
    (later : ∀ next, Holds frame next depth stack values → next.outOfRange = false →
      Leads platform file (.running next rest) outcome goal) :
    Leads platform file (.running state (.instr (.floatUnary operation) :: rest))
      outcome goal := by
  have done : effect platform state (.floatUnary operation) =
      some { state with floats := values, outOfRange := false } := by
    simp [effect_floatUnary operation holds.floats, accepted, replaceTop, room]
  refine .instr done (later _ ?_ rfl)
  exact holds.change rfl rfl (fun _ _ => rfl) (fun _ _ => rfl) holds.scratch rfl rfl

theorem Leads.floatUnary_refused {top : unit.Extended}
    (holds : Holds frame state depth stack [top]) {operation : FloatUnary}
    (refused : unaryResults unit top operation = none)
    (later : ∀ next, Holds frame next depth stack [top] → next.outOfRange = true →
      Leads platform file (.running next rest) outcome goal) :
    Leads platform file (.running state (.instr (.floatUnary operation) :: rest))
      outcome goal := by
  have done : effect platform state (.floatUnary operation) =
      some { state with outOfRange := true } := by
    rw [effect_floatUnary operation holds.floats, refused]
    rfl
  refine .instr done (later _ ?_ rfl)
  exact holds.change rfl rfl (fun _ _ => rfl) (fun _ _ => rfl) holds.scratch holds.floats rfl

/-- The status shows a refused operand in the bit that is tested. -/
theorem test_statusWord (outOfRange : Bool) (before : Word) :
    (Flags.ofLogic (((statusWord outOfRange before >>> 8) &&& 0xff#64) &&& .ofInt 64 4)).test
      .notZero = some outOfRange := by
  have bit : ∀ word : Word,
      ((word >>> 8) &&& 0xff#64) &&& .ofInt 64 4 = (word &&& 0x400#64) >>> 8 := by
    intro word
    rw [BitVec.and_assoc, BitVec.ushiftRight_and_distrib]
    rfl
  rw [bit, statusWord, BitVec.and_or_distrib_right, BitVec.and_assoc]
  cases outOfRange <;> simp [Flags.ofLogic, Flags.ofResult, Flags.test]

theorem Leads.requireTrigRange (holds : Holds frame state depth stack floats)
    (accepted : state.outOfRange = false)
    (later : ∀ next, Holds frame next depth stack floats →
      Leads platform file (.running next rest) outcome goal) :
    Leads platform file (.running state (instrs requireTrigRange ++ rest)) outcome goal := by
  have tested := holds.set (by decide : isCallerSaved .rax = true)
    (statusWord state.outOfRange (state.registers .rax))
  refine .instr rfl (.instr rfl (.skip ?_ (later _ (tested.setFlags _))))
  rw [State.registers_set_same]
  exact (test_statusWord _ _).trans (congrArg some accepted)

theorem Leads.requireTrigRange_overflow {code : List Line}
    (holds : Holds frame state depth stack floats) (refused : state.outOfRange = true)
    (found : codeAt? Handler.overflow file = some code) :
    Leads platform file (.running state (instrs Codegen.requireTrigRange ++ rest))
      (.error .overflow) goal := by
  refine .instr rfl (.instr rfl (.fail .overflow ?_ found holds.printed))
  rw [State.registers_set_same]
  exact (test_statusWord _ _).trans (congrArg some refused)

/-! Integers. -/

theorem negOverflow_iff (word : Word) :
    BitVec.negOverflow word = decide (word.toInt = leastInteger) := by
  rw [Bool.eq_iff_iff, decide_eq_true_iff]
  simp [BitVec.negOverflow, leastInteger]

/-- The code goes on with the integer part of a double, if there is one. -/
theorem Leads.truncateInto {double : Word} (holds : Holds frame state depth stack floats)
    {cell : Symbol} {target : Register} (free : isCallerSaved target = true)
    (other : target ≠ .rsi) (found : state.cells cell = some double) {code : List Line}
    (handled : codeAt? Handler.overflow file = some code) {after : Int → Except Failure α}
    (later : ∀ next, Holds frame next depth stack floats →
      next.registers target = unit.truncate double → next.cells = state.cells →
      (∀ register, register ≠ target → register ≠ .rsi →
        next.registers register = state.registers register) →
      (unit.truncate double).toInt ≠ leastInteger →
      Leads platform file (.running next rest) (after (unit.truncate double).toInt) goal) :
    Leads platform file (.running state (instrs (truncateInto target cell) ++ rest))
      (integer unit double >>= after) goal := by
  have done : effect platform state (.truncate target cell) =
      some ((state.set target (unit.truncate double)).setFlags state.flags) :=
    effect_truncate target found
  refine .assign holds free done fun truncated holdsTruncated foundTarget others same _ => ?_
  refine .assign holdsTruncated (by decide) rfl
    fun copied holdsCopied foundCopy kept sameToo _ => ?_
  refine .assign holdsCopied (by decide) rfl fun negated holdsNegated _ keptToo sameAll flags => ?_
  have overflow : negated.flags.test .overflow =
      some (decide ((unit.truncate double).toInt = leastInteger)) := by
    rw [flags, foundCopy, foundTarget, ← negOverflow_iff]
    rfl
  by_cases least : (unit.truncate double).toInt = leastInteger
  · have fails : integer unit double = .error .overflow := if_pos least
    rw [fails]
    exact .fail .overflow (overflow.trans (by simp [least])) handled holdsNegated.printed
  · have succeeds : integer unit double = .ok (unit.truncate double).toInt := if_neg least
    rw [succeeds]
    refine .skip (overflow.trans (by simp [least])) (later negated holdsNegated ?_ ?_ ?_ least)
    · rw [keptToo target other, kept target other, foundTarget]
    · rw [sameAll, sameToo, same]
    · intro register notTarget notCopy
      rw [keptToo register notCopy, kept register notCopy, others register notTarget]

theorem Leads.pushInteger (holds : Holds frame state depth stack [])
    (later : ∀ next, Holds frame next depth
        (unit.store (unit.loadInteger (state.registers .rax)) :: stack) [] →
      Leads platform file (.running next rest) outcome goal) :
    Leads platform file (.running state (instrs pushInteger ++ rest)) outcome goal := by
  have stored := holds.setCell (by decide : Cell.integer ∈ scratch) (state.registers .rax)
  have loaded := stored.setFloats [unit.loadInteger (state.registers .rax)]
  have room : (state.setCell Cell.integer (state.registers .rax)).floats.length < 8 := by
    simp [stored.floats]
  refine .instr (effect_store .rax (holds.scratch _ (by decide)))
    (.instr (effect_floatLoadInteger (State.cells_setCell_same _ _ _) room) ?_)
  rw [stored.floats]
  exact Leads.floatStore loaded (by decide) fun next converted found =>
    Leads.pushFrom converted found later

end Fragments

end Rpn.Machine

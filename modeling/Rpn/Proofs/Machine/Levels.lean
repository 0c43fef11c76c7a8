import Rpn.Proofs.Machine.Fragments

/-! Levels: what is known of the depth, the stack and the floating-point unit before a line without
running the code.  Every instruction takes a state at its level to a state at the next level. -/

namespace Rpn

/-! What instructions change. -/

namespace Assembly.Instr

open Machine in
/-- The registers that an instruction sets. -/
def written : Instr → List Register
  | pop target | move target _ | moveValue target _ | load target _ | address target _
  | decrement target | negate target | shiftLeft target _ | xor target _ | multiply target _
  | moveIfEqual target _ | truncate target _ => [target]
  | moveHalf target _ | xorHalf target _ => [full target]
  | signExtend => [.rdx]
  | divide _ => [.rax, .rdx]
  | floatStatus => [.rax]
  | _ => []

def stored : Instr → List Symbol
  | store cell _ | storeValue cell _ | incrementCell cell | decrementCell cell
  | floatStore cell => [cell]
  | _ => []

def usesStack : Instr → Bool
  | push _ | pop _ | alignStack _ => true
  | _ => false

def usesFloats : Instr → Bool
  | floatLoad _ | floatLoadInteger _ | floatStore _ | floatBinary _ _ | floatUnary _ => true
  | _ => false

end Assembly.Instr

namespace Machine

open Assembly Codegen

variable {unit : FloatUnit} {platform : Platform} {state next : State unit} {instruction : Instr}

/-- What an instruction leaves as it was. -/
structure Keeps (instruction : Instr) (state next : State unit) : Prop where
  registers : ∀ register, register ∉ instruction.written →
    next.registers register = state.registers register
  cells : ∀ cell, cell ∉ instruction.stored → next.cells cell = state.cells cell
  stack : instruction.usesStack = false →
    next.memory = state.memory ∧ next.stackPointer = state.stackPointer
  floats : instruction.usesFloats = false →
    next.floats = state.floats ∧ next.outOfRange = state.outOfRange

theorem keeps_replaceTop {operation : FloatUnary} {rest : List unit.Extended}
    {result? : Option (List unit.Extended)} (done : replaceTop state rest result? = some next) :
    Keeps (.floatUnary operation) state next := by
  have same : ∀ floats outOfRange,
      Keeps (.floatUnary operation) state { state with floats, outOfRange } := fun _ _ =>
    ⟨fun _ _ => rfl, fun _ _ => rfl, fun _ => ⟨rfl, rfl⟩, nofun⟩
  unfold replaceTop at done
  split at done
  · cases done
    exact same ..
  · split at done <;> cases done
    exact same ..

theorem eq_of_pushFloat? {value : unit.Extended} (pushed : state.pushFloat? value = some next) :
    next = { state with floats := value :: state.floats } := by
  unfold State.pushFloat? at pushed
  split at pushed <;> cases pushed
  rfl

/-- An instruction changes no more than what it names. -/
theorem keeps_of_effect (done : effect platform state instruction = some next) :
    Keeps instruction state next := by
  cases instruction with
  | push _ | pop _ | move _ _ | moveValue _ _ | moveHalf _ _ | address _ _ | compare _ _ | test _ _
  | decrement _ | negate _ | xor _ _ | xorHalf _ _ | multiply _ _ | signExtend | floatStatus
  | testStatus _ =>
      cases done
      constructor <;>
        simp +contextual [Instr.written, Instr.stored, Instr.usesStack, State.set, State.setFlags,
          State.push]
  | load _ _ | store _ _ | storeValue _ _ | compareCell _ _ | incrementCell _ | decrementCell _
  | truncate _ _ | loadVector _ =>
      obtain ⟨value, _, equal⟩ := Option.bind_eq_some_iff.mp done
      cases equal
      constructor <;>
        simp +contextual [Instr.written, Instr.stored, State.set, State.setFlags, State.setCell]
  | shiftLeft _ _ | divide _ | alignStack _ =>
      simp only [effect] at done
      split at done <;> cases done
      constructor <;>
        simp +contextual [Instr.written, Instr.stored, Instr.usesStack, State.set, State.setFlags]
  | moveIfEqual _ _ =>
      obtain ⟨isZero, _, equal⟩ := Option.bind_eq_some_iff.mp done
      cases isZero <;> cases equal <;> constructor <;>
        simp +contextual [Instr.written, State.set]
  | floatLoad _ | floatLoadInteger _ =>
      obtain ⟨value, _, pushed⟩ := Option.bind_eq_some_iff.mp done
      cases eq_of_pushFloat? pushed
      exact ⟨fun _ _ => rfl, fun _ _ => rfl, fun _ => ⟨rfl, rfl⟩, fun still =>
        Bool.noConfusion (show true = false from still)⟩
  | floatStore _ | floatBinary _ _ =>
      obtain ⟨value, _, equal⟩ := Option.bind_eq_some_iff.mp done
      split at equal <;> cases equal
      constructor <;> simp +contextual [Instr.stored, State.setCell, Instr.usesFloats]
  | floatUnary operation =>
      simp only [effect] at done
      split at done
      · cases done
      · split at done <;> exact keeps_replaceTop done
  | jump _ | jumpIf _ _ | call _ | ret | breakpoint => cases done

/-! Levels. -/

/-- How far the stack reaches beyond the saved register: a number of words, or any distance after
the stack was aligned. -/
inductive Height where
  | words (count : Nat)
  | aligned
  deriving DecidableEq

/-- What the flags or the status word tell. -/
inductive Evidence where
  | nothing
  | compared (count : Nat)
  | status
  | refusal
  deriving DecidableEq

/-- What is known before a line.  The floating-point unit has `floats` numbers, or `refused` of them
if its last operation refused its operand. -/
structure Level where
  depth : Nat
  height : Height
  floats : Nat
  refused : Nat
  evidence : Evidence

/-- The height after an instruction.  Nothing is taken from below the saved register. -/
def Height.after : Height → Instr → Option Height
  | words count, .push _ => some (words (count + 1))
  | words (count + 1), .pop _ => some (words count)
  | _, .push _ | _, .pop _ => none
  | _, .alignStack mask => if mask = -16 then some aligned else none
  | height, _ => some height

namespace Level

def depthAfter (level : Level) : Instr → Option Nat
  | .store cell _ | .floatStore cell => if cell = Cell.depth then none else some level.depth
  | .storeValue cell value =>
      if cell = Cell.depth then if 0 ≤ value then some value.toNat else none
      else some level.depth
  | .incrementCell cell => some (if cell = Cell.depth then level.depth + 1 else level.depth)
  | .decrementCell cell =>
      if cell = Cell.depth then if 0 < level.depth then some (level.depth - 1) else none
      else some level.depth
  | _ => some level.depth

def floatsAfter (level : Level) : Instr → Option (Nat × Nat)
  | .floatLoad _ | .floatLoadInteger _ => some (level.floats + 1, level.refused + 1)
  | .floatStore _ => some (level.floats - 1, level.refused - 1)
  | .floatUnary operation =>
      if level.floats = level.refused then
        some (if operation = .sineCosine then level.floats + 1 else level.floats, level.floats)
      else none
  | _ => some (level.floats, level.refused)

def evidenceAfter (level : Level) : Instr → Evidence
  | .compareCell cell value =>
      if cell = Cell.depth ∧ level.depth < 2 ^ 64 ∧ 0 ≤ value ∧ value < 2 ^ 64 then
        .compared value.toNat
      else .nothing
  | .floatStatus => .status
  | .testStatus mask => if level.evidence = .status ∧ mask = 4 then .refusal else .nothing
  | _ => .nothing

/-- The level after an instruction.  There is none if the instruction sets a register that the
caller wants back, or the depth to a value that is not known. -/
def after (level : Level) (instruction : Instr) : Option Level :=
  if instruction.written.all isCallerSaved then
    match level.depthAfter instruction, level.height.after instruction,
      level.floatsAfter instruction with
    | some depth, some height, some (floats, refused) =>
        some ⟨depth, height, floats, refused, level.evidenceAfter instruction⟩
    | _, _, _ => none
  else none

/-- The level where a condition holds or does not hold; none if that cannot be. -/
def branch (level : Level) (condition : Condition) (holds : Bool) : Option Level :=
  match level.evidence, condition with
  | .compared count, .below => if decide (level.depth < count) = holds then some level else none
  | .compared count, .above => if decide (count < level.depth) = holds then some level else none
  | .refusal, .notZero =>
      if holds then some { level with floats := level.refused }
      else some { level with refused := level.floats }
  | _, _ => some level

end Level

/-! States at a level. -/

/-- What the caller of a program wants back: its registers and its stack, where the return address
is on top. -/
structure Caller where
  stackPointer : Int
  registers : Register → Word
  target : Word

/-- Where the program saves the frame pointer of its caller. -/
def Caller.base (caller : Caller) : Int :=
  caller.stackPointer - 8

def Height.At (base stackPointer : Int) : Height → Prop
  | words count => stackPointer + 8 * count = base
  | aligned => stackPointer ≤ base ∧ stackPointer % 16 = 0

theorem Height.At.le {height : Height} {base stackPointer : Int}
    (reached : height.At base stackPointer) : stackPointer ≤ base := by
  cases height with
  | words count =>
      have equal : stackPointer + 8 * count = base := reached
      omega
  | aligned => exact reached.1

def Evidence.Shows (depth : Nat) (state : State unit) : Evidence → Prop
  | nothing => True
  | compared count =>
      state.flags.test .below = some (decide (depth < count)) ∧
        state.flags.test .above = some (decide (count < depth))
  | status => ∃ before, state.registers .rax = statusWord state.outOfRange before
  | refusal => state.flags.test .notZero = some state.outOfRange

/-- The registers that the caller wants back are as it left them. -/
def Caller.HasRegisters (caller : Caller) (state : State unit) : Prop :=
  ∀ register, isCallerSaved register = false →
    state.registers register = caller.registers register

/-- What belongs to the caller is where it was, and its frame pointer is saved. -/
structure Untouched (caller : Caller) (state : State unit) : Prop where
  saved : state.memory caller.base = caller.registers .rbp
  target : state.memory caller.stackPointer = caller.target
  registers : caller.HasRegisters state

/-- A state of a running program at a level. -/
structure Agrees (caller : Caller) (level : Level) (state : State unit) : Prop extends
    Untouched caller state where
  height : level.height.At caller.base state.stackPointer
  depth : state.cells Cell.depth = some (.ofNat 64 level.depth)
  floats : state.floats.length = if state.outOfRange then level.refused else level.floats
  evidence : level.evidence.Shows level.depth state

section Preservation

variable {caller : Caller} {level after : Level}

/-- The stack changes only beyond the saved register. -/
theorem height_of_effect {height reached : Height} {base : Int}
    (before : height.At base state.stackPointer) (moved : height.after instruction = some reached)
    (done : effect platform state instruction = some next) :
    reached.At base next.stackPointer ∧
      ∀ place, base ≤ place → next.memory place = state.memory place := by
  have bound := before.le
  -- Only three instructions move the stack; all others leave it and its height alone.
  by_cases still : instruction.usesStack = false
  · have same : height.after instruction = some height := by
      cases instruction <;> simp_all [Height.after, Instr.usesStack]
    cases moved.symm.trans same
    obtain ⟨memory, pointer⟩ := (keeps_of_effect done).stack still
    rw [memory, pointer]
    exact ⟨before, fun _ _ => rfl⟩
  · cases instruction with
    | push source =>
        cases done
        cases height with
        | aligned => cases moved
        | words count =>
            cases moved
            have equal : state.stackPointer + 8 * count = base := before
            refine ⟨?_, fun place above => if_neg (by omega)⟩
            change state.stackPointer - 8 + 8 * ((count + 1 : Nat) : Int) = base
            omega
    | pop target =>
        cases done
        match height with
        | .aligned | .words 0 => cases moved
        | .words (count + 1) =>
            cases moved
            have equal : state.stackPointer + 8 * ((count + 1 : Nat) : Int) = base := before
            refine ⟨?_, fun place above => rfl⟩
            change state.stackPointer + 8 + 8 * (count : Int) = base
            omega
    | alignStack mask =>
        have known : mask = -16 ∧ .aligned = reached := by
          cases height <;> simpa [Height.after] using moved
        obtain ⟨rfl, rfl⟩ := known
        cases done
        refine ⟨⟨?_, ?_⟩, fun place above => rfl⟩
        · change state.stackPointer - state.stackPointer % 16 ≤ base
          omega
        · change (state.stackPointer - state.stackPointer % 16) % 16 = 0
          omega
    | _ => exact absurd rfl still

theorem depth_of_effect {depth : Nat}
    (before : state.cells Cell.depth = some (.ofNat 64 level.depth))
    (counted : level.depthAfter instruction = some depth)
    (done : effect platform state instruction = some next) :
    next.cells Cell.depth = some (.ofNat 64 depth) := by
  by_cases other : Cell.depth ∉ instruction.stored
  · have same : level.depthAfter instruction = some level.depth := by
      cases instruction <;>
        simp_all [Level.depthAfter, Instr.stored, eq_comm (a := Cell.depth)]
    cases counted.symm.trans same
    rw [(keeps_of_effect done).cells _ other]
    exact before
  · have member := Decidable.not_not.mp other
    cases instruction with
    | store cell _ | floatStore cell =>
        cases List.mem_singleton.mp member
        simp [Level.depthAfter] at counted
    | storeValue cell value =>
        cases List.mem_singleton.mp member
        have known : 0 ≤ value ∧ value.toNat = depth := by simpa [Level.depthAfter] using counted
        obtain ⟨natural, rfl⟩ := known
        obtain ⟨_, _, stored⟩ := Option.bind_eq_some_iff.mp done
        cases stored
        have number : BitVec.ofInt 64 value = .ofNat 64 value.toNat := by
          rw [← BitVec.ofInt_natCast, Int.toNat_of_nonneg natural]
        exact (state.cells_setCell_same _ _).trans (congrArg some number)
    | incrementCell cell =>
        cases List.mem_singleton.mp member
        have known : level.depth + 1 = depth := by simpa [Level.depthAfter] using counted
        rw [effect_incrementCell before] at done
        cases done
        simp [State.setFlags, ← known, BitVec.ofNat_add]
    | decrementCell cell =>
        cases List.mem_singleton.mp member
        have known : 0 < level.depth ∧ level.depth - 1 = depth := by
          simpa [Level.depthAfter] using counted
        rw [effect_decrementCell before] at done
        cases done
        have more : level.depth = depth + 1 := by omega
        simp [State.setFlags, more, BitVec.ofNat_add]
    | _ => exact absurd member List.not_mem_nil

theorem effect_floatUnary_cons {top : unit.Extended} {rest : List unit.Extended}
    (operation : FloatUnary) (floats : state.floats = top :: rest) :
    effect platform state (.floatUnary operation) =
      replaceTop state rest (unaryResults unit top operation) := by
  cases operation <;> simp [effect, floats, unaryResults]

theorem length_of_unaryResults {top : unit.Extended} {operation : FloatUnary}
    {values : List unit.Extended} (accepted : unaryResults unit top operation = some values) :
    values.length = if operation = .sineCosine then 2 else 1 := by
  cases operation <;>
    simp only [unaryResults, Option.map_eq_some_iff, Option.some.injEq] at accepted
  case absolute | squareRoot => simp [← accepted]
  case sine | cosine | sineCosine =>
    obtain ⟨_, _, rfl⟩ := accepted
    rfl

theorem length_of_floatStore {cell : Symbol}
    (done : effect platform state (.floatStore cell) = some next) :
    state.floats.length = next.floats.length + 1 ∧ next.outOfRange = state.outOfRange := by
  obtain ⟨value, _, popped⟩ := Option.bind_eq_some_iff.mp done
  split at popped <;> cases popped
  rename_i top rest held
  exact ⟨congrArg List.length held, rfl⟩

theorem length_of_floatBinary {operation : FloatBinary} {cell : Symbol}
    (done : effect platform state (.floatBinary operation cell) = some next) :
    state.floats.length = next.floats.length ∧ next.outOfRange = state.outOfRange := by
  obtain ⟨value, _, replaced⟩ := Option.bind_eq_some_iff.mp done
  split at replaced <;> cases replaced
  rename_i top rest held
  exact ⟨by rw [held]; rfl, rfl⟩

/-- An operation that refuses its operand leaves it, and only one puts a second number there. -/
theorem length_of_floatUnary {operation : FloatUnary}
    (done : effect platform state (.floatUnary operation) = some next) :
    next.floats.length =
      if next.outOfRange then state.floats.length
      else if operation = .sineCosine then state.floats.length + 1 else state.floats.length := by
  cases held : state.floats with
  | nil =>
      rw [effect, held] at done
      cases done
  | cons top rest =>
      rw [effect_floatUnary_cons operation held] at done
      cases result : unaryResults unit top operation with
      | none =>
          rw [result] at done
          cases done
          simp [held]
      | some values =>
          rw [result, replaceTop] at done
          split at done <;> cases done
          have added := length_of_unaryResults result
          simp only [List.length_append, added, Bool.false_eq_true, if_false, List.length_cons]
          split <;> omega

theorem floats_of_effect {floats refused : Nat}
    (before : state.floats.length = if state.outOfRange then level.refused else level.floats)
    (counted : level.floatsAfter instruction = some (floats, refused))
    (done : effect platform state instruction = some next) :
    next.floats.length = if next.outOfRange then refused else floats := by
  by_cases still : instruction.usesFloats = false
  · have same : level.floatsAfter instruction = some (level.floats, level.refused) := by
      cases instruction <;> simp_all [Level.floatsAfter, Instr.usesFloats]
    cases counted.symm.trans same
    obtain ⟨values, flag⟩ := (keeps_of_effect done).floats still
    rw [values, flag]
    exact before
  · cases instruction with
    | floatLoad cell | floatLoadInteger cell =>
        obtain ⟨value, _, pushed⟩ := Option.bind_eq_some_iff.mp done
        cases eq_of_pushFloat? pushed
        cases counted
        simp only [List.length_cons, before]
        split <;> rfl
    | floatStore cell =>
        obtain ⟨popped, flag⟩ := length_of_floatStore done
        cases counted
        rw [popped] at before
        rw [flag]
        cases out : state.outOfRange <;> rw [out] at before <;> exact Nat.eq_sub_of_add_eq before
    | floatBinary operation cell =>
        obtain ⟨replaced, flag⟩ := length_of_floatBinary done
        cases counted
        rw [← replaced, flag]
        exact before
    | floatUnary operation =>
        by_cases even : level.floats = level.refused
        · rw [show level.floatsAfter (.floatUnary operation) = some _ from if_pos even] at counted
          cases counted
          rw [← even, ite_self] at before
          rw [length_of_floatUnary done, before]
        · rw [show level.floatsAfter (.floatUnary operation) = none from if_neg even] at counted
          cases counted
    | _ => exact absurd rfl still

theorem evidence_of_effect (agrees : Agrees caller level state)
    (done : effect platform state instruction = some next) {depth : Nat}
    (counted : level.depthAfter instruction = some depth) :
    (level.evidenceAfter instruction).Shows depth next := by
  cases instruction with
  | compareCell cell value =>
      cases counted
      by_cases known : cell = Cell.depth ∧ level.depth < 2 ^ 64 ∧ 0 ≤ value ∧ value < 2 ^ 64
      · rw [show level.evidenceAfter (.compareCell cell value) = .compared value.toNat from
          if_pos known]
        obtain ⟨rfl, small, natural, bounded⟩ := known
        rw [effect_compareCell value agrees.depth] at done
        cases done
        obtain ⟨count, rfl⟩ := Int.eq_ofNat_of_zero_le natural
        have fits : count < 2 ^ 64 := by exact_mod_cast bounded
        exact ⟨test_below small fits, test_above small fits⟩
      · rw [show level.evidenceAfter (.compareCell cell value) = .nothing from if_neg known]
        trivial
  | floatStatus =>
      cases done
      exact ⟨state.registers .rax, state.registers_set_same _ _⟩
  | testStatus mask =>
      cases done
      by_cases known : level.evidence = .status ∧ mask = 4
      · rw [show level.evidenceAfter (.testStatus mask) = .refusal from if_pos known]
        obtain ⟨isStatus, rfl⟩ := known
        have shown := agrees.evidence
        rw [isStatus] at shown
        obtain ⟨before, status⟩ := shown
        change (Flags.ofLogic _).test .notZero = some state.outOfRange
        rw [status]
        exact test_statusWord _ _
      · rw [show level.evidenceAfter (.testStatus mask) = .nothing from if_neg known]
        trivial
  | _ => trivial

/-- An instruction takes a state to the next level. -/
theorem agrees_after (agrees : Agrees caller level state)
    (passed : level.after instruction = some after)
    (done : effect platform state instruction = some next) : Agrees caller after next := by
  unfold Level.after at passed
  split at passed
  · rename_i free
    split at passed
    · rename_i depth height floats refused counted moved numbers
      cases passed
      obtain ⟨reached, memory⟩ := height_of_effect agrees.height moved done
      have kept := keeps_of_effect done
      have above : caller.base ≤ caller.stackPointer := by
        unfold Caller.base
        omega
      refine ⟨⟨(memory _ (Int.le_refl _)).trans agrees.saved, (memory _ above).trans agrees.target,
        fun register saved => ?_⟩, reached, depth_of_effect agrees.depth counted done,
        floats_of_effect agrees.floats numbers done, evidence_of_effect agrees done counted⟩
      have untouched : register ∉ instruction.written := fun member =>
        Bool.noConfusion (saved.symm.trans (List.all_eq_true.mp free register member))
      exact (kept.registers register untouched).trans (agrees.registers register saved)
    · cases passed
  · cases passed

/-- A condition leads to the level where it has its answer. -/
theorem agrees_branch (agrees : Agrees caller level state) {condition : Condition} {holds : Bool}
    (tested : state.flags.test condition = some holds) :
    ∃ chosen, level.branch condition holds = some chosen ∧ Agrees caller chosen state := by
  have shown := agrees.evidence
  unfold Level.branch
  split
  · rename_i count compared
    rw [compared] at shown
    rw [shown.1, Option.some.injEq] at tested
    exact ⟨level, if_pos tested, agrees⟩
  · rename_i count compared
    rw [compared] at shown
    rw [shown.2, Option.some.injEq] at tested
    exact ⟨level, if_pos tested, agrees⟩
  · rename_i refusal
    rw [refusal] at shown
    have refused : state.outOfRange = holds := Option.some.inj (shown.symm.trans tested)
    have floats := agrees.floats
    rw [refused] at floats
    cases holds with
    | false => exact ⟨_, rfl, { agrees with floats := by simpa [refused] using floats }⟩
    | true => exact ⟨_, rfl, { agrees with floats := by simpa [refused] using floats }⟩
  · exact ⟨level, rfl, agrees⟩

end Preservation

end Machine

end Rpn

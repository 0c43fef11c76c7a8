import Rpn.Proofs.Machine.Fragments

/-! Blocks without loops compute what their operations mean. -/

namespace Rpn.Machine

open Assembly Codegen Evaluation

variable {unit : FloatUnit} {platform : Platform} {file : List Line} {frame : Frame}
  {state : State unit} {stack : List Word} {rest : List Line}

/-- Between two blocks the counted depth is that of the stack, and the floating-point unit is
empty. -/
def Ready (frame : Frame) (state : State unit) (stack : List Word) : Prop :=
  Holds frame state stack.length stack []

/-- The code goes on after a block with a given stack. -/
def Continues (frame : Frame) (rest : List Line) (stack : List Word)
    (position : Position unit) : Prop :=
  ∃ next, position = .running next rest ∧ Ready frame next stack

theorem Leads.continues (ready : Ready frame state stack) :
    Leads platform file (.running state rest) (.ok stack) (Continues frame rest) :=
  .done (.refl _) ⟨state, rfl, ready⟩

/-- Every failure has a handler. -/
def Handled (file : List Line) : Prop :=
  ∀ failure, ∃ code, codeAt? (handlerOf failure) file = some code

/-! Constants and exchanges. -/

theorem leads_push (ready : Ready frame state stack) {literal : Bytes}
    (member : literal ∈ frame.literals) :
    Leads platform file (.running state (instrs (push literal) ++ rest))
      (.ok (unit.literal literal :: stack)) (Continues frame rest) := by
  simp only [push, instrs_append, List.append_assoc]
  refine .pushFrom ready (ready.constants literal member) fun next pushed => ?_
  exact .incrementDepth pushed fun final counted => .continues counted

theorem leads_duplicate {top : Word} (ready : Ready frame state (top :: stack))
    (small : (top :: stack).length < 2 ^ 64) :
    Leads platform file (.running state (instrs duplicate ++ rest))
      (.ok (top :: top :: stack)) (Continues frame rest) := by
  simp only [duplicate, instrs_append, List.append_assoc]
  refine .requireEntries ready small (by simp) fun checked holds => ?_
  refine .pop holds (by decide) fun popped holdsPopped found _ _ => ?_
  refine .push holdsPopped found fun once holdsOnce same => ?_
  refine .push holdsOnce (same ▸ found) fun twice holdsTwice _ => ?_
  exact .incrementDepth holdsTwice fun final counted => .continues counted

theorem leads_exchange {top second : Word} (ready : Ready frame state (top :: second :: stack))
    (small : (top :: second :: stack).length < 2 ^ 64) :
    Leads platform file (.running state (instrs exchange ++ rest))
      (.ok (second :: top :: stack)) (Continues frame rest) := by
  simp only [exchange, instrs_append, List.append_assoc]
  refine .requireEntries ready small (by simp) fun checked holds => ?_
  refine .pop holds (by decide) fun first holdsFirst foundTop _ _ => ?_
  refine .pop holdsFirst (by decide) fun both holdsBoth foundSecond others _ => ?_
  have keptTop : both.registers .rax = top := (others .rax (by decide)).trans foundTop
  refine .push holdsBoth keptTop fun once holdsOnce same => ?_
  refine .push holdsOnce (same ▸ foundSecond) fun twice holdsTwice _ => ?_
  exact .continues holdsTwice

/-! Arithmetic. -/

/-- The end of an arithmetic block, with the top of the stack in its cell. -/
theorem leads_combine {top second : Word} (operation : FloatBinary)
    (holds : Holds frame state (stack.length + 2) (second :: stack) [])
    (found : state.cells Cell.first = some top) :
    Leads platform file
      (.running state (instrs (popInto Cell.second) ++
        (instrs [ .floatLoad Cell.second, .floatBinary operation Cell.first,
            .floatStore Cell.first ] ++
          (instrs (pushFrom Cell.first) ++ (instrs [.decrementCell Cell.depth] ++ rest)))))
      (.ok (unit.combine operation second top :: stack)) (Continues frame rest) := by
  refine .popInto holds (by decide) fun popped holdsPopped foundSecond others => ?_
  have keptFirst : popped.cells Cell.first = some top :=
    (others Cell.first (by decide)).trans found
  refine .floatLoad holdsPopped foundSecond (by simp) fun loaded holdsLoaded same => ?_
  refine .floatBinary holdsLoaded operation (same ▸ keptFirst) fun combined holdsCombined => ?_
  refine .floatStore holdsCombined (by decide) fun stored holdsStored foundResult => ?_
  refine .pushFrom holdsStored foundResult fun pushed holdsPushed => ?_
  exact .decrementDepth holdsPushed fun final counted => .continues counted

theorem leads_arithmetic {top second : Word} (operation : FloatBinary)
    (ready : Ready frame state (top :: second :: stack))
    (small : (top :: second :: stack).length < 2 ^ 64) :
    Leads platform file (.running state (instrs (arithmetic operation []) ++ rest))
      (.ok (unit.combine operation second top :: stack)) (Continues frame rest) := by
  simp only [arithmetic, instrs_append, List.append_assoc]
  refine .requireEntries ready small (by simp) fun checked holds => ?_
  refine .pop holds (by decide) fun popped holdsPopped found _ _ => ?_
  refine .store holdsPopped (by decide) found fun stored holdsStored foundTop _ => ?_
  exact leads_combine operation holdsStored foundTop

/-- The check sends a divisor of zero of either sign to the handler. -/
theorem leads_divide {top second : Word} (handled : Handled file)
    (ready : Ready frame state (top :: second :: stack))
    (small : (top :: second :: stack).length < 2 ^ 64) :
    Leads platform file (.running state (instrs (arithmetic .divide requireNonzero) ++ rest))
      (Operation.divide.apply unit (top :: second :: stack)) (Continues frame rest) := by
  simp only [arithmetic, instrs_append, List.append_assoc]
  refine .requireEntries ready small (by simp) fun checked holds => ?_
  refine .pop holds (by decide) fun popped holdsPopped found _ _ => ?_
  refine .assign holdsPopped (by decide) rfl fun copied holdsCopied foundCopy kept _ _ => ?_
  refine .assign holdsCopied (by decide) rfl fun shifted holdsShifted _ keptToo _ flags => ?_
  have tested : shifted.flags.test .zero = some (isZero top) := by
    rw [flags, foundCopy, found]
    rfl
  by_cases zero : isZero top = true
  · obtain ⟨code, foundCode⟩ := handled .zeroDivisor
    rw [Operation.apply, if_pos zero]
    exact .fail .zeroDivisor (tested.trans (congrArg some zero)) foundCode holdsShifted.printed
  · rw [Operation.apply, if_neg zero]
    refine .skip (tested.trans (congrArg some (Bool.eq_false_iff.mpr zero))) ?_
    have keptTop : shifted.registers .rax = top := by
      rw [keptToo .rax (by decide), kept .rax (by decide), found]
    refine .store holdsShifted (by decide) keptTop fun stored holdsStored foundTop _ => ?_
    exact leads_combine .divide holdsStored foundTop

/-! Operations on the top. -/

theorem leads_unary {top : Word} {operation : FloatUnary} {result : unit.Extended}
    (ready : Ready frame state (top :: stack)) (small : (top :: stack).length < 2 ^ 64)
    (accepted : unaryResults unit (unit.load top) operation = some [result]) :
    Leads platform file (.running state (instrs (unary operation []) ++ rest))
      (.ok (unit.store result :: stack)) (Continues frame rest) := by
  simp only [unary, instrs_append, List.append_assoc]
  refine .requireEntries ready small (by simp) fun checked holds => ?_
  refine .popInto holds (by decide) fun popped holdsPopped foundTop _ => ?_
  refine .floatLoad holdsPopped foundTop (by simp) fun loaded holdsLoaded _ => ?_
  refine .floatUnary holdsLoaded accepted (by simp) fun computed holdsComputed _ => ?_
  refine .floatStore holdsComputed (by decide) fun stored holdsStored foundResult => ?_
  exact .pushFrom holdsStored foundResult fun pushed holdsPushed => .continues holdsPushed

/-- A trigonometric operation fails if it refuses its operand. -/
theorem leads_trigonometric {top : Word} (operation : FloatUnary) (handled : Handled file)
    {result? : Option unit.Extended} (ready : Ready frame state (top :: stack))
    (small : (top :: stack).length < 2 ^ 64)
    (computes : unaryResults unit (unit.load top) operation = result?.map ([·])) :
    Leads platform file (.running state (instrs (unary operation requireTrigRange) ++ rest))
      (match result? with
        | some result => .ok (unit.store result :: stack)
        | none => .error .overflow) (Continues frame rest) := by
  simp only [unary, instrs_append, List.append_assoc]
  refine .requireEntries ready small (by simp) fun checked holds => ?_
  refine .popInto holds (by decide) fun popped holdsPopped foundTop _ => ?_
  refine .floatLoad holdsPopped foundTop (by simp) fun loaded holdsLoaded _ => ?_
  cases result? with
  | none =>
      obtain ⟨code, foundCode⟩ := handled .overflow
      refine .floatUnary_refused holdsLoaded computes fun refused holdsRefused marked => ?_
      exact .requireTrigRange_overflow holdsRefused marked foundCode
  | some result =>
      refine .floatUnary holdsLoaded computes (by simp) fun computed holdsComputed unmarked => ?_
      refine .requireTrigRange holdsComputed unmarked fun tested holdsTested => ?_
      refine .floatStore holdsTested (by decide) fun stored holdsStored foundResult => ?_
      exact .pushFrom holdsStored foundResult fun pushed holdsPushed => .continues holdsPushed

/-- The quotient of the sine and the cosine. -/
theorem leads_tangent {top : Word} (handled : Handled file)
    (ready : Ready frame state (top :: stack)) (small : (top :: stack).length < 2 ^ 64) :
    Leads platform file (.running state (instrs tangent ++ rest))
      (Operation.tan.apply unit (top :: stack)) (Continues frame rest) := by
  simp only [tangent, instrs_append, List.append_assoc]
  refine .requireEntries ready small (by simp) fun checked holds => ?_
  refine .popInto holds (by decide) fun popped holdsPopped foundTop _ => ?_
  refine .floatLoad holdsPopped foundTop (by simp) fun loaded holdsLoaded _ => ?_
  cases found : unit.sineCosine? (unit.load top) with
  | none =>
      obtain ⟨code, foundCode⟩ := handled .overflow
      have computes : unaryResults unit (unit.load top) .sineCosine = none := by
        rw [unaryResults, found]
        rfl
      rw [Operation.apply, found]
      refine .floatUnary_refused holdsLoaded computes fun refused holdsRefused marked => ?_
      exact .requireTrigRange_overflow holdsRefused marked foundCode
  | some values =>
      obtain ⟨sine, cosine⟩ := values
      have computes : unaryResults unit (unit.load top) .sineCosine = some [cosine, sine] := by
        rw [unaryResults, found]
        rfl
      rw [Operation.apply, found]
      refine .floatUnary holdsLoaded computes (by simp) fun computed holdsComputed unmarked => ?_
      refine .requireTrigRange holdsComputed unmarked fun tested holdsTested => ?_
      refine .floatStore holdsTested (by decide) fun stored holdsStored foundCosine => ?_
      refine .floatBinary holdsStored .divide foundCosine fun divided holdsDivided => ?_
      refine .floatStore holdsDivided (by decide) fun final holdsFinal foundResult => ?_
      exact .pushFrom holdsFinal foundResult fun pushed holdsPushed => .continues holdsPushed

/-! Remainders. -/

theorem effect_divide {dividend divisor : Word} (foundDivisor : state.registers .rcx = divisor)
    (foundDividend : state.registers .rax = dividend)
    (foundSign : state.registers .rdx = if dividend.msb then .allOnes 64 else 0)
    (nonzero : divisor.toInt ≠ 0) (notLeast : dividend.toInt ≠ leastInteger) :
    effect platform state (.divide .rcx) =
      some (((state.set .rax (.ofInt 64 (dividend.toInt.tdiv divisor.toInt))).set .rdx
        (.ofInt 64 (dividend.toInt.tmod divisor.toInt))).setFlags {}) := by
  have fits := toInt_ofInt (isInteger64_tdiv notLeast divisor.toInt)
  simp only [effect, foundDivisor, foundDividend, foundSign, toInt_signExtended]
  rw [if_neg (by simp [nonzero, fits])]

/-- The division leaves the remainder of the truncated operands. -/
theorem Leads.divide {depth : Nat} {floats : List unit.Extended} {α : Type}
    {outcome : Except Failure α} {goal : α → Position unit → Prop} {dividend divisor : Word}
    (holds : Holds frame state depth stack floats)
    (foundDivisor : state.registers .rcx = divisor)
    (foundDividend : state.registers .rax = dividend) (nonzero : divisor.toInt ≠ 0)
    (notLeast : dividend.toInt ≠ leastInteger)
    (later : ∀ next, Holds frame next depth stack floats →
      next.registers .rax = .ofInt 64 (dividend.toInt.tmod divisor.toInt) →
      Leads platform file (.running next rest) outcome goal) :
    Leads platform file
      (.running state (instrs [.xor .rdx .rdx, .signExtend, .divide .rcx, .move .rax .rdx] ++ rest))
      outcome goal := by
  refine .assign holds (by decide) rfl fun cleared holdsCleared _ others _ _ => ?_
  refine .assign holdsCleared (by decide) rfl fun extended holdsExtended foundSign kept _ _ => ?_
  have keptDivisor : extended.registers .rcx = divisor := by
    rw [kept .rcx (by decide), others .rcx (by decide), foundDivisor]
  have keptDividend : extended.registers .rax = dividend := by
    rw [kept .rax (by decide), others .rax (by decide), foundDividend]
  rw [others .rax (by decide), foundDividend] at foundSign
  refine .instr (effect_divide keptDivisor keptDividend foundSign nonzero notLeast) ?_
  have divided := ((holdsExtended.set (by decide : isCallerSaved .rax = true)
    (.ofInt 64 (dividend.toInt.tdiv divisor.toInt))).set (by decide : isCallerSaved .rdx = true)
    (.ofInt 64 (dividend.toInt.tmod divisor.toInt))).setFlags {}
  refine .assign divided (by decide) rfl fun final holdsFinal foundRemainder _ _ _ => ?_
  exact later final holdsFinal (foundRemainder.trans rfl)

theorem effect_moveIfEqual {equal : Bool} (target source : Register)
    (zero : state.flags.zero = some equal) :
    effect platform state (.moveIfEqual target source) =
      some (if equal then state.set target (state.registers source) else state) := by
  simp [effect, zero]

/-- The divisor that the machine uses leaves the same remainder. -/
theorem Leads.remainder {depth : Nat} {floats : List unit.Extended} {α : Type}
    {outcome : Except Failure α} {goal : α → Position unit → Prop} {dividend divisor : Word}
    (holds : Holds frame state depth stack floats)
    (foundDivisor : state.registers .rcx = divisor)
    (foundDividend : state.registers .rax = dividend) (nonzero : divisor.toInt ≠ 0)
    (notLeast : dividend.toInt ≠ leastInteger)
    (later : ∀ next, Holds frame next depth stack floats →
      next.registers .rax = .ofInt 64 (dividend.toInt.tmod divisor.toInt) →
      Leads platform file (.running next rest) outcome goal) :
    Leads platform file
      (.running state (instrs [ .moveValue .rsi 1, .compare .rcx (-1), .moveIfEqual .rcx .rsi,
        .xor .rdx .rdx, .signExtend, .divide .rcx, .move .rax .rdx ] ++ rest)) outcome goal := by
  refine .assign holds (by decide) rfl fun first holdsFirst foundOne others _ _ => ?_
  refine .compare holdsFirst rfl fun compared holdsCompared same flags => ?_
  rw [others .rcx (by decide), foundDivisor] at flags
  have keptDividend : compared.registers .rax = dividend := by
    rw [same, others .rax (by decide), foundDividend]
  have keptDivisor : compared.registers .rcx = divisor := by
    rw [same, others .rcx (by decide), foundDivisor]
  have zero : compared.flags.zero = some (decide (divisor = .ofInt 64 (-1))) := by
    rw [flags, ← sub_beq_zero]
    rfl
  have move : effect platform compared (.moveIfEqual .rcx .rsi) = _ :=
    effect_moveIfEqual .rcx .rsi zero
  by_cases negative : divisor = .ofInt 64 (-1)
  · -- The divisor -1 becomes 1.
    rw [if_pos (decide_eq_true negative)] at move
    refine .assign holdsCompared (by decide) move fun moved holdsMoved foundMoved kept _ _ => ?_
    rw [same, foundOne] at foundMoved
    have keptToo : moved.registers .rax = dividend := (kept .rax (by decide)).trans keptDividend
    refine .divide holdsMoved foundMoved keptToo (by decide) notLeast fun next holdsNext found => ?_
    have one : (BitVec.ofInt 64 1).toInt = 1 := by decide
    have minusOne : (BitVec.ofInt 64 (-1)).toInt = -1 := by decide
    refine later next holdsNext (found.trans ?_)
    rw [negative, one, minusOne, Int.tmod_neg]
  · rw [if_neg (by simpa using negative)] at move
    exact .instr move (.divide holdsCompared keptDivisor keptDividend nonzero notLeast later)

/-- The code goes on with the integer parts of two operands, if both have one. -/
theorem leads_operands {α : Type} {after : Int → Int → Except Failure α}
    {goal : α → Position unit → Prop} {top second : Word} {code : List Line} (target : Register)
    (ready : Ready frame state (top :: second :: stack))
    (small : (top :: second :: stack).length < 2 ^ 64) (free : isCallerSaved target = true)
    (apart : target ≠ .rsi ∧ target ≠ .rax) (handled : codeAt? Handler.overflow file = some code)
    (later : ∀ next, Holds frame next (stack.length + 2) stack [] →
      next.registers target = unit.truncate top → next.registers .rax = unit.truncate second →
      (unit.truncate second).toInt ≠ leastInteger →
      Leads platform file (.running next rest)
        (after (unit.truncate top).toInt (unit.truncate second).toInt) goal) :
    Leads platform file
      (.running state (instrs (requireEntries 2) ++ (instrs (popInto Cell.first) ++
        (instrs (popInto Cell.second) ++ (instrs (truncateInto target Cell.first) ++
          (instrs (truncateInto .rax Cell.second) ++ rest))))))
      (integer unit top >>= fun first => integer unit second >>= after first) goal := by
  refine .requireEntries ready small (by simp) fun checked holds => ?_
  refine .popInto holds (by decide) fun one holdsOne foundTop _ => ?_
  refine .popInto holdsOne (by decide) fun two holdsTwo foundSecond others => ?_
  have keptTop : two.cells Cell.first = some top := (others _ (by decide)).trans foundTop
  refine .truncateInto holdsTwo free apart.1 keptTop handled
    fun left holdsLeft foundFirst same _ _ => ?_
  refine .truncateInto holdsLeft (by decide) (by decide) (same ▸ foundSecond) handled
    fun right holdsRight found _ kept notLeast => ?_
  exact later right holdsRight ((kept target apart.2 apart.1).trans foundFirst) found notLeast

theorem leads_modulus {top second : Word} (handled : Handled file)
    (ready : Ready frame state (top :: second :: stack))
    (small : (top :: second :: stack).length < 2 ^ 64) :
    Leads platform file (.running state (instrs modulus ++ rest))
      (Operation.modulus.apply unit (top :: second :: stack)) (Continues frame rest) := by
  obtain ⟨overflow, foundOverflow⟩ := handled .overflow
  obtain ⟨zeroDivisor, foundZero⟩ := handled .zeroDivisor
  simp only [modulus, instrs_append, List.append_assoc]
  rw [Operation.apply]
  refine leads_operands .rcx ready small (by decide) (by decide) foundOverflow
    fun right holdsRight foundDivisor foundDividend notLeast => ?_
  refine .compare holdsRight rfl fun tested holdsTested sameRegisters flags => ?_
  have zero : tested.flags.test .zero = some (decide ((unit.truncate top).toInt = 0)) := by
    rw [flags, foundDivisor, BitVec.and_self, ← beq_zero]
    rfl
  by_cases none : (unit.truncate top).toInt = 0
  · rw [if_pos none]
    exact .fail .zeroDivisor (zero.trans (by simp [none])) foundZero holdsTested.printed
  · rw [if_neg none]
    refine .skip (zero.trans (by simp [none])) ?_
    refine .remainder holdsTested (sameRegisters ▸ foundDivisor) (sameRegisters ▸ foundDividend)
      none notLeast fun final holdsFinal foundRemainder => ?_
    rw [ofInteger, if_pos (isInteger64_tmod notLeast _)]
    refine .pushInteger holdsFinal fun pushed holdsPushed => ?_
    rw [foundRemainder] at holdsPushed
    exact .decrementDepth holdsPushed fun counted holdsCounted => .continues holdsCounted

end Rpn.Machine

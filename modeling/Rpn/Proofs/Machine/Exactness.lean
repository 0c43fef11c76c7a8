import Rpn.Proofs.Machine.Discipline
import Rpn.Proofs.Machine.Exits

/-! The blocks that compute with integers, as parts of any program.  They are exact: an integer that
they push is the mathematical one, and one that does not fit is an overflow. -/

namespace Rpn

namespace Evaluation

variable {unit : FloatUnit} {double top second : Word}

theorem integer_of_eq (unfit : (unit.truncate double).toInt = -2 ^ 63) :
    integer unit double = .error .overflow :=
  if_pos unfit

theorem integer_of_ne (fit : (unit.truncate double).toInt ≠ -2 ^ 63) :
    integer unit double = .ok (unit.truncate double).toInt :=
  if_neg fit

/-- One operand without an integer part is enough. -/
theorem integers_of_eq {α : Type} {after : Int → Int → Except Failure α}
    (unfit : (unit.truncate top).toInt = -2 ^ 63 ∨ (unit.truncate second).toInt = -2 ^ 63) :
    (integer unit top >>= fun first => integer unit second >>= after first) =
      .error .overflow := by
  by_cases first : (unit.truncate top).toInt = -2 ^ 63
  · rw [integer_of_eq first]
    rfl
  · rw [integer_of_ne first, integer_of_eq (unfit.resolve_left first)]
    rfl

theorem product_eq_factorial (count : Nat) : product count = count.factorial := by
  induction count with
  | zero => rfl
  | succ count induction => rw [product, Nat.factorial_succ, induction]

end Evaluation

namespace Machine

open Assembly Codegen Evaluation

variable {unit : FloatUnit} {platform : Platform} {file rest lines : List Line} {frame : Frame}
  {state next : State unit} {stack : List Word}

/-! Blocks of compiled programs. -/

theorem stands_lines (debug : Bool) {pool : ConstantPool} (earlier later : List Operation)
    (operation : Operation) (numbers : ∀ literal ∈ pool.literals, Token.IsNumber literal) :
    Stands (Codegen.lines debug pool (earlier ++ operation :: later))
      (code earlier.length operation) (blocksFrom (earlier.length + 1) later ++ footer) := by
  have once := nodup_defined_lines debug (earlier ++ operation :: later) numbers
  have placed :
      code earlier.length operation ++ (blocksFrom (earlier.length + 1) later ++ footer) <:+
        Codegen.lines debug pool (earlier ++ operation :: later) := by
    refine ⟨header debug pool ++ blocksFrom 0 earlier ++
      [.blank, .remark (title operation)], ?_⟩
    simp [Codegen.lines, blocksFrom_append, blocksFrom, block]
  have atHandlers : handlers ++ [.directive .plainStack] <:+
      blocksFrom (earlier.length + 1) later ++ footer :=
    ⟨blocksFrom (earlier.length + 1) later ++ finish, by simp [footer]⟩
  refine ⟨placed, once, handled_of_suffix ?_ atHandlers⟩
  exact once.sublist (((List.suffix_append _ _).trans placed).sublist.filterMap _)

theorem stands_single (operation : Operation) :
    Stands (Codegen.lines false .empty [operation]) (code 0 operation) footer :=
  stands_lines false [] [] operation (List.forall_mem_nil _)

/-! States to begin with. -/

/-- A state between two blocks with a stack and nothing else. -/
def restingState (stack : List Word) : State integerUnit :=
  { registers := fun _ => 0, vector := 0, stackPointer := 0
    memory := fun address => stack.getD (address / 8).toNat 0
    cells := fun symbol => some (if symbol = Cell.depth then .ofNat 64 stack.length else 0)
    flags := {}, floats := [], outOfRange := false, printed := [] }

def restingPlatform : Platform :=
  ⟨fun _ => 0, fun _ => 0, 0, fun _ => 0⟩

def restingFrame (stack : List Word) : Frame :=
  ⟨8 * stack.length, [], fun _ => 0, []⟩

theorem stacked_getD (before stack : List Word) :
    Stacked (fun address => (before ++ stack).getD (address / 8).toNat 0) (8 * before.length)
      stack := by
  induction stack generalizing before with
  | nil => trivial
  | cons word stack induction =>
      refine ⟨by simp, ?_⟩
      have later := induction (before ++ [word])
      rw [List.append_assoc, List.length_append, List.length_singleton] at later
      have place : 8 * ((before.length + 1 : Nat) : Int) = 8 * before.length + 8 := by omega
      rwa [place] at later

theorem ready_restingState (stack : List Word) :
    Ready (restingFrame stack) (restingState stack) stack where
  stacked := by simpa [restingFrame, restingState] using stacked_getD [] stack
  pointer := by simp [restingFrame, restingState]
  depth := by simp [restingState]
  scratch := fun _ _ => rfl
  constants := nofun
  registers := fun _ _ => rfl
  floats := rfl
  printed := rfl

/-! Integers on the stack. -/

/-- A run goes on behind a block that has pushed an integer.  The word that was made a double is
this integer, whatever the registers held on the way. -/
def Delivers (frame : Frame) (rest : List Line) (stack : List Word) (value : Int)
    (next : State unit) (lines : List Line) : Prop :=
  lines = rest ∧ ∃ word : Word, word.toInt = value ∧
    Ready frame next (unit.store (unit.loadInteger word) :: stack)

theorem delivers_of_ready {value : Int} (fits : isInteger64 value = true)
    (behind : lines = rest ∧ Ready frame next (unit.ofInt value :: stack)) :
    Delivers frame rest stack value next lines :=
  ⟨behind.1, .ofInt 64 value, toInt_ofInt fits, behind.2⟩

/-- A block that is to push an integer does so if the integer fits, and is an overflow if not. -/
theorem delivers_of_computes {outcome : Except Failure (List Word)} {value : Int}
    (computes : outcome = ofInteger unit value >>= fun word => .ok (word :: stack))
    (handlers : ∀ failure, codeAt? (handlerOf failure) file = some lines ↔
      outcome = .error failure)
    (continues : ∀ after, outcome = .ok after → lines = rest ∧ Ready frame next after) :
    (isInteger64 value = true → Delivers frame rest stack value next lines) ∧
      (codeAt? Handler.overflow file = some lines ↔ isInteger64 value = false) := by
  have overflows : codeAt? Handler.overflow file = some lines ↔ _ := handlers .overflow
  cases fits : isInteger64 value with
  | true =>
      have pushed : outcome = .ok (unit.ofInt value :: stack) := by
        rw [computes, ofInteger, if_pos fits]
        rfl
      rw [pushed] at overflows
      exact ⟨fun _ => delivers_of_ready fits (continues _ pushed), by simpa using overflows⟩
  | false =>
      have failed : outcome = .error .overflow := by
        rw [computes, ofInteger, if_neg (by simp [fits])]
        rfl
      rw [failed] at overflows
      exact ⟨by simp, by simpa using overflows⟩

/-- The part of a block that takes two operands and truncates them. -/
def integerOperands (target : Register) : List Instr :=
  requireEntries 2 ++ popInto Cell.first ++ popInto Cell.second ++
    truncateInto target Cell.first ++ truncateInto .rax Cell.second

/-- If an operand has no integer part, this part is left for the handler. -/
theorem exists_leaves_operands {top second : Word} {target : Register}
    (stands : Stands file (instrs (integerOperands target)) rest)
    (ready : Ready frame state (top :: second :: stack))
    (small : (top :: second :: stack).length < 2 ^ 64) (free : isCallerSaved target = true)
    (apart : target ≠ .rsi ∧ target ≠ .rax)
    (unfit : (unit.truncate top).toInt = -2 ^ 63 ∨ (unit.truncate second).toInt = -2 ^ 63) :
    ∃ next lines, Leaves platform file (instrs (integerOperands target)) rest state next lines ∧
      codeAt? Handler.overflow file = some lines := by
  obtain ⟨overflow, found⟩ := stands.handled_alone .overflow
  have leads : Leads platform (instrs (integerOperands target) ++ barriers)
      (.running state (instrs (integerOperands target) ++ barriers))
      (integer unit top >>= fun _ => integer unit second >>= fun _ => .ok ())
      fun _ position => ∃ next, position = .running next barriers ∧ True := by
    simp only [integerOperands, instrs_append, List.append_assoc] at found ⊢
    exact leads_operands target ready small free apart found fun next _ _ _ _ =>
      .done (.refl _) ⟨next, rfl, trivial⟩
  obtain ⟨next, lines, leaves, handlers, _⟩ := stands.exists_leaves leads
  exact ⟨next, lines, leaves, (handlers .overflow).mpr (integers_of_eq unfit)⟩

/-! Powers. -/

theorem power_eq_append (index : Nat) :
    Codegen.power index = instrs (integerOperands .rdx) ++
      powerLoop index (instrs pushInteger ++ [.instr (.decrementCell Cell.depth)]) := by
  have whole := power_append index []
  rwa [List.append_nil] at whole

/-- A power with a positive exponent is pushed if it fits, and is an overflow if not; any other
exponent gives zero.  If an operand has no integer part, the block is left from the part in front of
the comparison of the exponent. -/
theorem power_block_is_exact {index : Nat} {top second : Word}
    (stands : Stands file (Codegen.power index) rest)
    (ready : Ready frame state (top :: second :: stack))
    (small : (top :: second :: stack).length < 2 ^ 64) :
    let exponent := (unit.truncate top).toInt
    let base := (unit.truncate second).toInt
    let power := base ^ exponent.toNat
    ∃ next lines, Leaves platform file (Codegen.power index) rest state next lines ∧
      (exponent ≠ -2 ^ 63 → base ≠ -2 ^ 63 →
        (exponent ≤ 0 → Delivers frame rest stack 0 next lines) ∧
        (1 ≤ exponent → -2 ^ 63 ≤ power → power < 2 ^ 63 →
          Delivers frame rest stack power next lines) ∧
        (codeAt? Handler.overflow file = some lines ↔
          1 ≤ exponent ∧ ¬ (-2 ^ 63 ≤ power ∧ power < 2 ^ 63))) ∧
      (exponent = -2 ^ 63 ∨ base = -2 ^ 63 →
        codeAt? Handler.overflow file = some lines ∧
          ∃ early, Leaves platform file (instrs (integerOperands .rdx))
            (powerLoop index (instrs pushInteger ++ [.instr (.decrementCell Cell.depth)]) ++ rest)
            state early lines) := by
  intro exponent base power
  obtain ⟨next, lines, leaves, handlers, continues⟩ := stands.exists_leaves
    (leads_power stands.handled_alone stands.once_alone List.suffix_rfl ready small)
  refine ⟨next, lines, leaves, fun fit fitToo => ?_, fun unfit => ?_⟩
  · have computes : Operation.power.apply unit (top :: second :: stack) =
        ofInteger unit (Evaluation.power base exponent) >>= fun word => .ok (word :: stack) := by
      rw [Operation.apply, integer_of_ne fit, integer_of_ne fitToo]
      rfl
    obtain ⟨delivers, overflows⟩ := delivers_of_computes computes handlers continues
    by_cases none : exponent ≤ 0
    · have zero : Evaluation.power base exponent = 0 := if_pos none
      rw [zero] at delivers overflows
      exact ⟨fun _ => delivers rfl, by omega, overflows.trans (iff_of_false (by decide) (by omega))⟩
    · have value : Evaluation.power base exponent = power := if_neg none
      rw [value] at delivers overflows
      refine ⟨fun negative => absurd negative none, fun _ lower upper => ?_, overflows.trans ?_⟩
      · exact delivers (isInteger64_iff.mpr ⟨lower, upper⟩)
      · rw [← isInteger64_iff, Bool.not_eq_true]
        exact ⟨fun large => ⟨by omega, large⟩, And.right⟩
  · have overflows : codeAt? Handler.overflow file = some lines :=
      (handlers .overflow).mpr (integers_of_eq unfit)
    rw [power_eq_append] at stands
    obtain ⟨early, code, leavesEarly, found⟩ :=
      exists_leaves_operands stands.front ready small (by decide) (by decide) unfit
    cases overflows.symm.trans found
    exact ⟨overflows, early, leavesEarly⟩

/-- The least integer is a power that fits. -/
theorem power_block_of_least :
    ∃ next lines,
      Leaves restingPlatform (Codegen.lines false .empty [.power]) (Codegen.power 0)
        footer (restingState [63, -2]) next lines ∧
      Delivers (restingFrame [63, -2]) footer [] (-2 ^ 63) next lines := by
  obtain ⟨next, lines, leaves, exact, _⟩ := power_block_is_exact
    (stands_single .power) (ready_restingState [63, -2]) (by decide)
  exact ⟨next, lines, leaves,
    (exact (by decide) (by decide)).2.1 (by decide) (by decide) (by decide)⟩

/-! Factorials. -/

/-- The factorial of a positive integer is pushed if it fits, and is an overflow if not; any other
integer gives zero. -/
theorem factorial_block_is_exact {index : Nat} {top : Word}
    (stands : Stands file (Codegen.factorial index) rest)
    (ready : Ready frame state (top :: stack)) (small : (top :: stack).length < 2 ^ 64) :
    let value := (unit.truncate top).toInt
    ∃ next lines, Leaves platform file (Codegen.factorial index) rest state next lines ∧
      (value ≠ -2 ^ 63 →
        (value ≤ 0 → Delivers frame rest stack 0 next lines) ∧
        (1 ≤ value → value.toNat.factorial < 2 ^ 63 →
          Delivers frame rest stack value.toNat.factorial next lines) ∧
        (codeAt? Handler.overflow file = some lines ↔
          1 ≤ value ∧ 2 ^ 63 ≤ value.toNat.factorial)) ∧
      (value = -2 ^ 63 → codeAt? Handler.overflow file = some lines) := by
  intro value
  obtain ⟨next, lines, leaves, handlers, continues⟩ := stands.exists_leaves
    (leads_factorial stands.handled_alone stands.once_alone List.suffix_rfl ready small)
  refine ⟨next, lines, leaves, fun fit => ?_, fun unfit => ?_⟩
  · have computes : Operation.factorial.apply unit (top :: stack) =
        ofInteger unit (Evaluation.factorial value) >>= fun word => .ok (word :: stack) := by
      rw [Operation.apply, integer_of_ne fit]
      rfl
    obtain ⟨delivers, overflows⟩ := delivers_of_computes computes handlers continues
    by_cases none : value ≤ 0
    · have zero : Evaluation.factorial value = 0 := if_pos none
      rw [zero] at delivers overflows
      exact ⟨fun _ => delivers rfl, by omega, overflows.trans (iff_of_false (by decide) (by omega))⟩
    · have product : Evaluation.factorial value = value.toNat.factorial := by
        rw [Evaluation.factorial, if_neg none, product_eq_factorial]
      rw [product] at delivers overflows
      refine ⟨fun negative => absurd negative none, fun _ small => ?_, overflows.trans ?_⟩
      · exact delivers (isInteger64_iff.mpr (by omega))
      · rw [← Bool.not_eq_true, isInteger64_iff]
        omega
  · refine (handlers .overflow).mpr ?_
    rw [Operation.apply, integer_of_eq unfit]
    rfl

/-- The largest factorial that fits. -/
theorem factorial_block_of_twenty :
    ∃ next lines,
      Leaves restingPlatform (Codegen.lines false .empty [.factorial])
        (Codegen.factorial 0) footer (restingState [20]) next lines ∧
      Delivers (restingFrame [20]) footer [] 2432902008176640000 next lines := by
  obtain ⟨next, lines, leaves, exact, _⟩ := factorial_block_is_exact
    (stands_single .factorial) (ready_restingState [20]) (by decide)
  exact ⟨next, lines, leaves, (exact (by decide)).2.1 (by decide) (by decide)⟩

/-! Remainders. -/

/-- Dividing by a register raises an error: there is no quotient, or it has more than 64 bits. -/
def DivideError (state : State unit) (divisor : Register) : Prop :=
  let quotient := (state.registers .rdx ++ state.registers .rax).toInt.tdiv
    (state.registers divisor).toInt
  (state.registers divisor).toInt = 0 ∨ ¬ (-2 ^ 63 ≤ quotient ∧ quotient < 2 ^ 63)

theorem not_divideError_of_isSome_step {divisor : Register} {ahead : List Line}
    (goesOn : (step platform file state (.instr (.divide divisor) :: ahead)).isSome = true) :
    ¬ DivideError state divisor := by
  intro error
  have none : effect platform state (.divide divisor) = none := by
    refine if_pos (error.imp_right fun large fits => large ?_)
    rw [← isInteger64_iff, ← fits]
    exact isInteger64_toInt _
  simp [step, none] at goesOn

theorem remainder_facts (dividend divisor : Int) :
    (dividend.tmod divisor = 0 ∨ (dividend.tmod divisor).sign = dividend.sign) ∧
      (divisor = 1 ∨ divisor = -1 → dividend.tmod divisor = 0) := by
  refine ⟨?_, ?_⟩
  · by_cases divides : divisor ∣ dividend
    · exact .inl (Int.tmod_eq_zero_of_dvd divides)
    · exact .inr ((Int.sign_tmod _ _).trans (if_neg divides))
  · rintro (rfl | rfl)
    · exact Int.tmod_one _
    · rw [Int.tmod_neg, Int.tmod_one]

/-- The remainder of two integers is pushed unless the divisor is zero, and the division raises no
error, whatever the operands are. -/
theorem modulus_block_is_exact {top second : Word} (stands : Stands file (instrs modulus) rest)
    (ready : Ready frame state (top :: second :: stack))
    (small : (top :: second :: stack).length < 2 ^ 64) :
    let divisor := (unit.truncate top).toInt
    let dividend := (unit.truncate second).toInt
    let remainder := dividend - divisor * dividend.tdiv divisor
    ∃ next lines, Leaves platform file (instrs modulus) rest state next lines ∧
      (∀ between register ahead,
        Crosses platform file (instrs modulus) rest (.running state (instrs modulus ++ rest))
          (.running between (.instr (.divide register) :: ahead)) →
        Inside (instrs modulus) rest (.instr (.divide register) :: ahead) →
        ¬ DivideError between register) ∧
      (codeAt? Handler.overflow file = some lines ↔ divisor = -2 ^ 63 ∨ dividend = -2 ^ 63) ∧
      (codeAt? Handler.zeroDivisor file = some lines ↔
        divisor ≠ -2 ^ 63 ∧ dividend ≠ -2 ^ 63 ∧ divisor = 0) ∧
      (divisor ≠ -2 ^ 63 → dividend ≠ -2 ^ 63 → divisor ≠ 0 →
        Delivers frame rest stack remainder next lines ∧
          (remainder = 0 ∨ remainder.sign = dividend.sign) ∧
          (divisor = 1 ∨ divisor = -1 → remainder = 0)) := by
  intro divisor dividend remainder
  obtain ⟨next, lines, leaves, handlers, continues⟩ := stands.exists_leaves
    (leads_modulus stands.handled_alone ready small)
  refine ⟨next, lines, leaves, fun between register ahead crosses inside =>
    not_divideError_of_isSome_step (leaves.isSome_step crosses inside), ?_⟩
  have overflows : codeAt? Handler.overflow file = some lines ↔ _ := handlers .overflow
  have zeros : codeAt? Handler.zeroDivisor file = some lines ↔ _ := handlers .zeroDivisor
  by_cases unfit : divisor = -2 ^ 63 ∨ dividend = -2 ^ 63
  · have failed : Operation.modulus.apply unit (top :: second :: stack) = .error .overflow :=
      integers_of_eq unfit
    rw [failed] at overflows zeros
    refine ⟨overflows.trans (iff_of_true rfl unfit), zeros.trans (iff_of_false (by simp) ?_),
      fun fit fitToo _ => absurd unfit (not_or.mpr ⟨fit, fitToo⟩)⟩
    exact fun fit => absurd unfit (not_or.mpr ⟨fit.1, fit.2.1⟩)
  have fit := not_or.mp unfit
  have computes : Operation.modulus.apply unit (top :: second :: stack) =
      if divisor = 0 then .error .zeroDivisor
      else ofInteger unit (dividend.tmod divisor) >>= fun word => .ok (word :: stack) := by
    rw [Operation.apply, integer_of_ne fit.1, integer_of_ne fit.2]
    rfl
  by_cases zero : divisor = 0
  · rw [if_pos zero] at computes
    rw [computes] at overflows zeros
    exact ⟨overflows.trans (iff_of_false (by simp) unfit),
      zeros.trans (iff_of_true rfl ⟨fit.1, fit.2, zero⟩), fun _ _ nonzero => absurd zero nonzero⟩
  · have fits : isInteger64 (dividend.tmod divisor) = true := isInteger64_tmod fit.2 divisor
    have pushed : Operation.modulus.apply unit (top :: second :: stack) =
        .ok (unit.ofInt (dividend.tmod divisor) :: stack) := by
      rw [computes, if_neg zero, ofInteger, if_pos fits]
      rfl
    have delivers := delivers_of_ready fits (continues _ pushed)
    have facts := remainder_facts dividend divisor
    rw [Int.tmod_def] at delivers facts
    rw [pushed] at overflows zeros
    exact ⟨overflows.trans (iff_of_false (by simp) unfit),
      zeros.trans (iff_of_false (by simp) fun other => zero other.2.2),
      fun _ _ _ => ⟨delivers, facts⟩⟩

theorem modulus_block_of_negative :
    ∃ next lines,
      Leaves restingPlatform (Codegen.lines false .empty [.modulus]) (instrs modulus)
        footer (restingState [3, -7]) next lines ∧
      Delivers (restingFrame [3, -7]) footer [] (-1) next lines := by
  obtain ⟨next, lines, leaves, _, _, _, exact⟩ := modulus_block_is_exact
    (stands_single .modulus) (ready_restingState [3, -7]) (by decide)
  exact ⟨next, lines, leaves, (exact (by decide) (by decide) (by decide)).1⟩

end Machine

end Rpn

import Rpn.Proofs.Machine.Blocks

/-! Blocks with loops: powers and factorials. -/

namespace Rpn.Machine

open Assembly Codegen Evaluation

variable {unit : FloatUnit} {platform : Platform} {file : List Line} {frame : Frame}
  {state : State unit} {depth : Nat} {stack : List Word} {floats : List unit.Extended}
  {rest : List Line}

/-! Signs. -/

theorem ofComparison_zero (word : Word) :
    Flags.ofComparison word (.ofInt 64 0) =
      ⟨some (decide (word.toInt = 0)), some false, some (decide (word.toInt < 0)), some false⟩ := by
  have zero : BitVec.ofInt 64 0 = 0 := rfl
  have difference : word - 0 = word := by simp
  have noCarry : word.ult 0 = false := by simp [BitVec.ult]
  have noOverflow : word.ssubOverflow 0 = false := by
    have bounds := isInteger64_iff.mp (isInteger64_toInt word)
    simp [BitVec.ssubOverflow]
    omega
  rw [Flags.ofComparison, zero, noCarry, noOverflow, difference, Flags.ofResult, beq_zero,
    BitVec.msb_eq_toInt]

theorem test_greater (word : Word) :
    (Flags.ofComparison word (.ofInt 64 0)).test .greater = some (decide (0 < word.toInt)) := by
  rw [ofComparison_zero]
  change some (!decide (word.toInt = 0) && decide (word.toInt < 0) == false) = _
  rw [Option.some.injEq, Bool.eq_iff_iff]
  simp
  omega

theorem test_notGreater (word : Word) :
    (Flags.ofComparison word (.ofInt 64 0)).test .notGreater = some (decide (word.toInt ≤ 0)) := by
  rw [ofComparison_zero]
  change some (decide (word.toInt = 0) || decide (word.toInt < 0) != false) = _
  rw [Option.some.injEq, Bool.eq_iff_iff]
  simp
  omega

/-! The loop that both blocks have. -/

/-- Multiply by `rcx` and count down. -/
def loopBody (counter : Register) (loop : Symbol) : List Instr :=
  [ .multiply .rax .rcx, .jumpIf .overflow Handler.overflow, .decrement counter,
    .jumpIf .notZero loop ]

/-- The factor in `rcx` is the counter itself, or it stays. -/
def Follows (counter : Register) (factor : Nat → Int) : Prop :=
  (counter = .rcx ∧ ∀ count, factor count = count + 1) ∨
    (counter = .rdx ∧ ∀ count, factor (count + 1) = factor count)

/-- The registers of the loop before a round that is not the last but `count` ones. -/
structure Looping (frame : Frame) (counter : Register) (factor : Nat → Int) (depth : Nat)
    (stack : List Word) (floats : List unit.Extended) (count : Nat) (product : Int)
    (state : State unit) : Prop where
  holds : Holds frame state depth stack floats
  product : (state.registers .rax).toInt = product
  counter : (state.registers counter).toInt = count + 1
  factor : (state.registers .rcx).toInt = factor count

/-- The code goes on with an integer in `rax`. -/
def Computed (frame : Frame) (rest : List Line) (depth : Nat) (stack : List Word)
    (floats : List unit.Extended) (value : Int) (position : Position unit) : Prop :=
  ∃ next, position = .running next rest ∧ Holds frame next depth stack floats ∧
    (next.registers .rax).toInt = value

section Loop

variable {counter : Register} {factor : Nat → Int} {loop : Symbol} {code : List Line}
  {count : Nat} {product : Int}

/-- One round multiplies.  After the last one the code goes on, and before it goes to the next. -/
theorem leads_round (follows : Follows counter factor)
    (placed : codeAt? loop file = some (instrs (loopBody counter loop) ++ rest))
    (handled : codeAt? Handler.overflow file = some code)
    (looping : Looping frame counter factor depth stack floats count product state) :
    Leads platform file (.running state (instrs (loopBody counter loop) ++ rest))
      (checked (product * factor count)) fun value position =>
        (count = 0 ∧ Computed frame rest depth stack floats value position) ∨
          ∃ next less, count = less + 1 ∧
            position = .running next (instrs (loopBody counter loop) ++ rest) ∧
            Looping frame counter factor depth stack floats less value next := by
  obtain ⟨holds, multiplied, counted, factored⟩ := looping
  have notRax : counter ≠ .rax := by
    rcases follows with ⟨rfl, _⟩ | ⟨rfl, _⟩ <;> decide
  have free : isCallerSaved counter = true := by
    rcases follows with ⟨rfl, _⟩ | ⟨rfl, _⟩ <;> rfl
  refine .assign holds (by decide) rfl fun raised holdsRaised foundProduct others _ flags => ?_
  have overflow : raised.flags.test .overflow = some (!isInteger64 (product * factor count)) := by
    rw [flags, ← multiplied, ← factored, ← smulOverflow_eq]
    rfl
  by_cases fits : isInteger64 (product * factor count) = true
  · rw [checked, if_pos fits]
    refine .skip (overflow.trans (by simp [fits])) ?_
    refine .assign holdsRaised free rfl fun lowered holdsLowered foundCounter kept _ flagsNow => ?_
    rw [others counter notRax] at foundCounter flagsNow
    have value : (lowered.registers .rax).toInt = product * factor count := by
      rw [kept .rax notRax.symm, foundProduct, ofInt_mul, multiplied, factored, toInt_ofInt fits]
    have more : lowered.flags.test .notZero = some (!decide (count = 0)) := by
      rw [flagsNow, ← sub_one_beq_zero counted]
      rfl
    cases count with
    | zero => exact .skip more (.done (.refl _) (.inl ⟨rfl, lowered, rfl, holdsLowered, value⟩))
    | succ less =>
        have counterNow : (lowered.registers counter).toInt = less + 1 := by
          rw [foundCounter]
          exact toInt_sub_one counted
        have factorNow : (lowered.registers .rcx).toInt = factor less := by
          rcases follows with ⟨rfl, itself⟩ | ⟨rfl, stays⟩
          · rw [counterNow, itself]
          · rw [kept .rcx (by decide), others .rcx (by decide), factored, stays]
        exact .done (.jumpIf_true more placed)
          (.inr ⟨lowered, less, rfl, rfl, holdsLowered, value, counterNow, factorNow⟩)
  · rw [checked, if_neg fits]
    exact .fail .overflow (overflow.trans (by simp [fits])) handled holdsRaised.printed

/-- The loop multiplies until its counter is zero. -/
theorem leads_loop (follows : Follows counter factor)
    (placed : codeAt? loop file = some (instrs (loopBody counter loop) ++ rest))
    (handled : codeAt? Handler.overflow file = some code)
    (looping : Looping frame counter factor depth stack floats count product state) :
    Leads platform file (.running state (instrs (loopBody counter loop) ++ rest))
      (multiplyDown factor (count + 1) product) (Computed frame rest depth stack floats) := by
  induction count generalizing state product with
  | zero =>
      rw [multiplyDown_succ]
      refine .bind (leads_round follows placed handled looping) fun value _ position after => ?_
      rcases after with ⟨_, computed⟩ | ⟨_, less, impossible, _⟩
      · exact .done (.refl _) computed
      · cases impossible
  | succ count induction =>
      rw [multiplyDown_succ]
      refine .bind (leads_round follows placed handled looping) fun value _ position after => ?_
      rcases after with ⟨impossible, _⟩ | ⟨next, less, equal, rfl, again⟩
      · cases impossible
      · cases equal
        exact induction again

end Loop

/-! Powers. -/

/-- The loop of a power with its cases, and the code after it. -/
def powerLoop (index : Nat) (after : List Line) : List Line :=
  let positive := localLabel (ascii "power") (ascii "positive") index
  let loop := localLabel (ascii "power") (ascii "loop") index
  let store := localLabel (ascii "power") (ascii "store") index
  instrs [.compare .rdx 0, .jumpIf .greater positive, .xorHalf .eax .eax, .jump store] ++
    .label positive :: (instrs [.move .rcx .rax, .decrement .rdx, .jumpIf .zero store] ++
      .label loop :: (instrs (loopBody .rdx loop) ++ .label store :: after))

theorem power_append (index : Nat) (rest : List Line) :
    Codegen.power index ++ rest =
      instrs (requireEntries 2 ++ popInto Cell.first ++ popInto Cell.second ++
          truncateInto .rdx Cell.first ++ truncateInto .rax Cell.second) ++
        powerLoop index (instrs pushInteger ++ .instr (.decrementCell Cell.depth) :: rest) := by
  simp [Codegen.power, powerLoop, loopBody]

theorem checked_power {base : Word} {exponent : Int} {count : Nat}
    (positive : exponent = count + 1) :
    checked (Evaluation.power base.toInt exponent) =
      multiplyDown (fun _ => base.toInt) count base.toInt := by
  have fits : isInteger64 (base.toInt ^ 1) = true := by
    rw [Int.pow_one]
    exact isInteger64_toInt base
  have times := multiplyDown_pow count fits
  have steps : exponent.toNat = 1 + count := by omega
  rw [Int.pow_one] at times
  rw [times, Evaluation.power, if_neg (by omega), steps]
  rfl

theorem leads_powerLoop {index : Nat} {after code : List Line} {base exponent : Word}
    (handled : codeAt? Handler.overflow file = some code) (once : (defined file).Nodup)
    (placed : powerLoop index after <:+ file) (holds : Holds frame state depth stack floats)
    (foundExponent : state.registers .rdx = exponent) (foundBase : state.registers .rax = base) :
    Leads platform file (.running state (powerLoop index after))
      (checked (Evaluation.power base.toInt exponent.toInt))
      (Computed frame after depth stack floats) := by
  have atPositive := (List.suffix_append _ _).trans placed
  have atLoop := (List.suffix_append _ _).trans ((List.suffix_cons _ _).trans atPositive)
  have atStore := (List.suffix_append _ _).trans ((List.suffix_cons _ _).trans atLoop)
  refine .compare holds rfl fun compared holdsCompared same flags => ?_
  have greater : compared.flags.test .greater = some (decide (0 < exponent.toInt)) := by
    rw [flags, foundExponent]
    exact test_greater exponent
  by_cases positive : 0 < exponent.toInt
  · obtain ⟨count, counted⟩ : ∃ count : Nat, exponent.toInt = count + 1 :=
      ⟨(exponent.toInt - 1).toNat, by omega⟩
    rw [checked_power counted]
    refine .of_reaches (.jumpIf_true (greater.trans (by simp [positive]))
      (codeAt?_of_suffix once atPositive)) ?_
    refine .assign holdsCompared (by decide) rfl fun copied holdsCopied foundCopy others _ _ => ?_
    refine .assign holdsCopied (by decide) rfl fun lowered holdsLowered foundCount kept _ now => ?_
    rw [same, foundBase] at foundCopy
    have keptExponent : copied.registers .rdx = exponent := by
      rw [others .rdx (by decide), same, foundExponent]
    have keptBase : lowered.registers .rax = base := by
      rw [kept .rax (by decide), others .rax (by decide), same, foundBase]
    rw [keptExponent] at foundCount now
    have last : lowered.flags.test .zero = some (decide (count = 0)) := by
      rw [now, ← sub_one_beq_zero counted]
      rfl
    cases count with
    | zero =>
        exact .done (.jumpIf_true last (codeAt?_of_suffix once atStore))
          ⟨lowered, rfl, holdsLowered, congrArg BitVec.toInt keptBase⟩
    | succ count =>
        have looping : Looping frame .rdx (fun _ => base.toInt) depth stack floats count base.toInt
            lowered := by
          refine ⟨holdsLowered, congrArg BitVec.toInt keptBase, ?_, ?_⟩
          · rw [foundCount]
            exact toInt_sub_one counted
          · rw [kept .rcx (by decide), foundCopy]
        refine .skip last (.of_reaches (.label _) ?_)
        refine .further (leads_loop (.inr ⟨rfl, fun _ => rfl⟩) (codeAt?_of_suffix once atLoop)
          handled looping) ?_
        rintro value _ ⟨next, rfl, holdsNext, found⟩
        exact ⟨_, .label _, next, rfl, holdsNext, found⟩
  · have none : Evaluation.power base.toInt exponent.toInt = 0 := if_pos (by omega)
    rw [none]
    refine .skip (greater.trans (by simp [positive])) ?_
    refine .clear holdsCompared fun cleared holdsCleared found _ => ?_
    exact .done (.jump (codeAt?_of_suffix once atStore))
      ⟨cleared, rfl, holdsCleared, congrArg BitVec.toInt found⟩

theorem leads_power {index : Nat} {top second : Word} (handled : Handled file)
    (once : (defined file).Nodup) (placed : Codegen.power index ++ rest <:+ file)
    (ready : Ready frame state (top :: second :: stack))
    (small : (top :: second :: stack).length < 2 ^ 64) :
    Leads platform file (.running state (Codegen.power index ++ rest))
      (Operation.power.apply unit (top :: second :: stack)) (Continues frame rest) := by
  obtain ⟨overflow, foundOverflow⟩ := handled .overflow
  rw [power_append] at placed ⊢
  rw [Operation.apply]
  have atLoop := (List.suffix_append _ _).trans placed
  simp only [instrs_append, List.append_assoc]
  refine leads_operands .rdx ready small (by decide) (by decide) foundOverflow
    fun right holdsRight foundExponent foundBase _ => ?_
  rw [ofInteger_bind]
  refine .bind (leads_powerLoop foundOverflow once atLoop holdsRight foundExponent foundBase) ?_
  rintro value _ _ ⟨next, rfl, holdsNext, found⟩
  refine .pushInteger holdsNext fun pushed holdsPushed => ?_
  rw [← BitVec.ofInt_toInt (x := next.registers .rax), found] at holdsPushed
  exact .decrementDepth holdsPushed fun final holdsFinal => .continues holdsFinal

/-! Factorials. -/

/-- The loop of a factorial, and the code after it. -/
def factorialLoop (index : Nat) (after : List Line) : List Line :=
  let loop := localLabel (ascii "factorial") (ascii "loop") index
  let store := localLabel (ascii "factorial") (ascii "store") index
  instrs [.xorHalf .eax .eax, .compare .rcx 0, .jumpIf .notGreater store, .moveHalf .eax 1] ++
    .label loop :: (instrs (loopBody .rcx loop) ++ .label store :: after)

theorem factorial_append (index : Nat) (rest : List Line) :
    Codegen.factorial index ++ rest =
      instrs (requireEntries 1 ++ popInto Cell.first ++ truncateInto .rcx Cell.first) ++
        factorialLoop index (instrs pushInteger ++ rest) := by
  simp [Codegen.factorial, factorialLoop, loopBody]

theorem checked_factorial {value : Int} {count : Nat} (positive : value = count + 1) :
    checked (Evaluation.factorial value) =
      multiplyDown (fun index => index + 1) (count + 1) 1 := by
  have times := multiplyDown_product (count + 1) (by decide : (0 : Int) < 1) (by decide)
  have steps : value.toNat = count + 1 := by omega
  rw [times, Int.one_mul, Evaluation.factorial, if_neg (by omega), steps]

theorem leads_factorialLoop {index : Nat} {after code : List Line} {value : Word}
    (handled : codeAt? Handler.overflow file = some code) (once : (defined file).Nodup)
    (placed : factorialLoop index after <:+ file) (holds : Holds frame state depth stack floats)
    (foundValue : state.registers .rcx = value) :
    Leads platform file (.running state (factorialLoop index after))
      (checked (Evaluation.factorial value.toInt)) (Computed frame after depth stack floats) := by
  have atLoop := (List.suffix_append _ _).trans placed
  have atStore := (List.suffix_append _ _).trans ((List.suffix_cons _ _).trans atLoop)
  refine .clear holds fun cleared holdsCleared foundZero others => ?_
  refine .compare holdsCleared rfl fun compared holdsCompared same flags => ?_
  have keptValue : cleared.registers .rcx = value := (others .rcx (by decide)).trans foundValue
  have notGreater : compared.flags.test .notGreater = some (decide (value.toInt ≤ 0)) := by
    rw [flags, keptValue]
    exact test_notGreater value
  by_cases positive : value.toInt ≤ 0
  · have none : Evaluation.factorial value.toInt = 0 := if_pos positive
    rw [none]
    refine .done (.jumpIf_true (notGreater.trans (by simp [positive]))
      (codeAt?_of_suffix once atStore)) ⟨compared, rfl, holdsCompared, ?_⟩
    rw [same, foundZero]
    rfl
  · obtain ⟨count, counted⟩ : ∃ count : Nat, value.toInt = count + 1 :=
      ⟨(value.toInt - 1).toNat, by omega⟩
    refine .skip (notGreater.trans (by simp [positive])) ?_
    have done : effect platform compared (.moveHalf .eax 1) =
        some ((compared.set .rax 1).setFlags compared.flags) := rfl
    refine .assign holdsCompared (by decide) done fun first holdsFirst foundOne kept _ _ => ?_
    have factored : first.registers .rcx = value := by
      rw [kept .rcx (by decide), same, keptValue]
    have looping : Looping frame .rcx (fun index => index + 1) depth stack floats count 1
        first := by
      refine ⟨holdsFirst, ?_, ?_, ?_⟩
      · rw [foundOne]
        rfl
      · rw [factored, counted]
      · rw [factored, counted]
    rw [checked_factorial counted]
    refine .of_reaches (.label _) (.further (leads_loop (.inl ⟨rfl, fun _ => rfl⟩)
      (codeAt?_of_suffix once atLoop) handled looping) ?_)
    rintro result _ ⟨next, rfl, holdsNext, found⟩
    exact ⟨_, .label _, next, rfl, holdsNext, found⟩

theorem leads_factorial {index : Nat} {top : Word} (handled : Handled file)
    (once : (defined file).Nodup) (placed : Codegen.factorial index ++ rest <:+ file)
    (ready : Ready frame state (top :: stack)) (small : (top :: stack).length < 2 ^ 64) :
    Leads platform file (.running state (Codegen.factorial index ++ rest))
      (Operation.factorial.apply unit (top :: stack)) (Continues frame rest) := by
  obtain ⟨overflow, foundOverflow⟩ := handled .overflow
  rw [factorial_append] at placed ⊢
  rw [Operation.apply]
  have atLoop := (List.suffix_append _ _).trans placed
  simp only [instrs_append, List.append_assoc]
  refine .requireEntries ready small (by simp) fun checked holds => ?_
  refine .popInto holds (by decide) fun popped holdsPopped foundTop _ => ?_
  refine .truncateInto holdsPopped (by decide) (by decide) foundTop foundOverflow
    fun truncated holdsTruncated foundValue _ _ _ => ?_
  rw [ofInteger_bind]
  refine .bind (leads_factorialLoop foundOverflow once atLoop holdsTruncated foundValue) ?_
  rintro value _ _ ⟨next, rfl, holdsNext, found⟩
  refine .pushInteger holdsNext fun pushed holdsPushed => ?_
  rw [← BitVec.ofInt_toInt (x := next.registers .rax), found] at holdsPushed
  exact .continues holdsPushed

end Rpn.Machine

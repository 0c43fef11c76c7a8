import Mathlib.Data.List.Sort
import Rpn.Proofs.Compilation

/-! Building a program.  Every token with an instruction gives one instruction, the first token
without one is reported, and the pool has exactly the literals that are pushed, so that programs
compose as their tokens do. -/

namespace Rpn

/-- The kinds of tokens that stand for an instruction without a literal, with its opcode. -/
def Instruction.operators : List (Token.Kind × Opcode) :=
  [ (.plus, .plus), (.minus, .minus), (.times, .multiply), (.divide, .divide), (.modulo, .modulus),
    (.power, .power), (.factorial, .factorial), (.abs, .abs), (.sin, .sin), (.cos, .cos),
    (.tan, .tan), (.sqrt, .sqrt), (.dup, .dup), (.swap, .swap) ]

/-- Numbers and operators can be executed. -/
def Token.IsExecutable (token : Token) : Prop :=
  token.kind = .number ∨ token.kind ∈ Instruction.operators.map Prod.fst

instance : DecidablePred Token.IsExecutable := fun _ => inferInstanceAs (Decidable (_ ∨ _))

namespace Instruction

/-- An instruction pushes the literal of a number, and carries nothing for an operator. -/
structure Executes (token : Token) (instruction : Instruction) : Prop where
  push_iff : instruction.opcode = .push ↔ token.kind = .number
  value : instruction.value? = if token.kind = .number then some token.literal else none
  operator : token.kind ≠ .number → (token.kind, instruction.opcode) ∈ operators

theorem opcode?_eq_some_iff {kind : Token.Kind} {opcode : Opcode} :
    kind.opcode? = some opcode ↔ (kind, opcode) ∈ operators := by
  cases kind <;> simp [Token.Kind.opcode?, operators, eq_comm]

theorem exists_ofToken {token : Token} (known : token.IsExecutable) :
    ∃ instruction, ofToken token = .ok instruction := by
  unfold ofToken
  split
  · exact ⟨_, rfl⟩
  · next other =>
      obtain ⟨⟨kind, opcode⟩, row, same⟩ := List.mem_map.mp (known.resolve_left other)
      rw [← same, opcode?_eq_some_iff.mpr row]
      exact ⟨_, rfl⟩

theorem ofToken_eq_error {token : Token} (unknown : ¬ token.IsExecutable) :
    ofToken token = .error (.unexpectedToken token) := by
  obtain ⟨noNumber, noOperator⟩ := not_or.mp unknown
  cases found : token.kind.opcode? with
  | none => simp [ofToken, noNumber, found]
  | some opcode =>
      exact absurd (List.mem_map.mpr ⟨_, opcode?_eq_some_iff.mp found, rfl⟩) noOperator

theorem executes_of_ofToken {token : Token} {instruction : Instruction}
    (made : ofToken token = .ok instruction) : Executes token instruction := by
  have noPush : ∀ row ∈ operators, row.2 ≠ .push := by decide
  unfold ofToken at made
  split at made
  · next number =>
      cases made
      exact ⟨by simp [number], by simp [number], fun other => absurd number other⟩
  · next other =>
      split at made
      · next opcode found =>
          cases made
          have row := opcode?_eq_some_iff.mp found
          exact ⟨iff_of_false (noPush _ row) other, by simp [other], fun _ => row⟩
      · cases made

end Instruction

namespace ConstantPool

/-- A pool is known from its literals in any order. -/
theorem eq_of_mem_iff {left right : ConstantPool}
    (same : ∀ literal, literal ∈ left.literals ↔ literal ∈ right.literals) : left = right := by
  obtain ⟨first, increasing⟩ := left
  obtain ⟨second, increasingToo⟩ := right
  cases increasing.eq_of_mem_iff increasingToo same
  rfl

/-- Literals are ordered by their bytes as unsigned numbers, a literal before its continuations. -/
theorem pairwise_literals (pool : ConstantPool) :
    pool.literals.Pairwise (List.Lex fun byte other => byte.toNat < other.toNat) :=
  pool.increasing.imp fun less => less

end ConstantPool

namespace Program

open Instruction

/-- The literals of the numbers among some tokens. -/
def numbers (tokens : List Token) : List Bytes :=
  (tokens.filter (·.kind = .number)).map Token.literal

variable {tokens : List Token} {program : Program}

theorem forall₂_executes (built : ofTokens tokens = .ok program) :
    List.Forall₂ Executes tokens program.instructions := by
  obtain ⟨instructions, made, rfl⟩ := Except.map_eq_ok built
  change List.Forall₂ Executes tokens instructions
  induction tokens generalizing instructions with
  | nil =>
      cases made
      exact .nil
  | cons token tokens induction =>
      rw [List.mapM_cons] at made
      obtain ⟨first, found, rest⟩ := Except.bind_eq_ok made
      obtain ⟨others, foundOthers, final⟩ := Except.bind_eq_ok rest
      cases final
      exact .cons (executes_of_ofToken found)
        (induction others foundOthers (congrArg (Except.map ofInstructions) foundOthers))

/-- The first token that cannot be executed is reported, whatever follows it. -/
theorem ofTokens_of_first {before : List Token} {token : Token}
    (known : ∀ earlier ∈ before, earlier.IsExecutable) (unknown : ¬ token.IsExecutable)
    (after : List Token) : ofTokens (before ++ token :: after) = .error (.unexpectedToken token) := by
  obtain ⟨instructions, made⟩ := exists_mapM_eq_ok fun earlier member =>
    exists_ofToken (known earlier member)
  rw [ofTokens, List.mapM_append, made, List.mapM_cons, ofToken_eq_error unknown]
  rfl

theorem exists_first_unknown (some : ¬ ∀ token ∈ tokens, token.IsExecutable) :
    ∃ before token after, tokens = before ++ token :: after ∧
      (∀ earlier ∈ before, earlier.IsExecutable) ∧ ¬ token.IsExecutable := by
  have unknown : ∃ token ∈ tokens, ¬ token.IsExecutable := by simpa using some
  obtain ⟨before, token, after, split, known, such⟩ := exists_first unknown
  exact ⟨before, token, after, split, by simpa using known, such⟩

theorem exists_ofTokens_iff :
    (∃ program, ofTokens tokens = .ok program) ↔ ∀ token ∈ tokens, token.IsExecutable := by
  constructor
  · rintro ⟨program, built⟩
    by_contra some
    obtain ⟨before, token, after, rfl, known, unknown⟩ := exists_first_unknown some
    rw [ofTokens_of_first known unknown] at built
    cases built
  · intro known
    obtain ⟨instructions, made⟩ := exists_mapM_eq_ok fun token member =>
      exists_ofToken (known token member)
    exact ⟨_, congrArg (Except.map ofInstructions) made⟩

theorem mem_constants_iff_push (built : ofTokens tokens = .ok program) (literal : Bytes) :
    literal ∈ program.constants.literals ↔
      ∃ instruction ∈ program.instructions,
        instruction.opcode = .push ∧ instruction.value? = some literal := by
  obtain ⟨instructions, made, rfl⟩ := Except.map_eq_ok built
  simp only [ofInstructions, ConstantPool.mem_literals_ofList, List.mem_filterMap]
  constructor
  · rintro ⟨instruction, member, value⟩
    obtain ⟨token, _, source⟩ := mem_of_mapM_eq_ok made instruction member
    have number := (value_of_ofToken source value).1
    exact ⟨instruction, member, (executes_of_ofToken source).push_iff.mpr number, value⟩
  · rintro ⟨instruction, member, _, value⟩
    exact ⟨instruction, member, value⟩

theorem mem_constants_iff_number (built : ofTokens tokens = .ok program) (literal : Bytes) :
    literal ∈ program.constants.literals ↔ literal ∈ numbers tokens := by
  have values : ∀ {tokens instructions}, List.Forall₂ Executes tokens instructions →
      instructions.filterMap (·.value?) = numbers tokens := by
    intro tokens instructions executes
    induction executes with
    | nil => rfl
    | @cons token _ _ _ first _ induction =>
        by_cases number : token.kind = .number <;> simp [numbers, first.value, number, induction]
  have pushed := values (forall₂_executes built)
  obtain ⟨instructions, _, rfl⟩ := Except.map_eq_ok built
  rw [← pushed]
  exact ConstantPool.mem_literals_ofList

theorem ofTokens_append {first second : List Token} {left right : Program}
    (leftBuilt : ofTokens first = .ok left) (rightBuilt : ofTokens second = .ok right) :
    ofTokens (first ++ second) = .ok (ofInstructions (left.instructions ++ right.instructions)) := by
  obtain ⟨_, leftMade, rfl⟩ := Except.map_eq_ok leftBuilt
  obtain ⟨_, rightMade, rfl⟩ := Except.map_eq_ok rightBuilt
  rw [ofTokens, List.mapM_append, leftMade, rightMade]
  rfl

theorem mem_constants_append {first second : List Token} {left right whole : Program}
    (leftBuilt : ofTokens first = .ok left) (rightBuilt : ofTokens second = .ok right)
    (built : ofTokens (first ++ second) = .ok whole) (literal : Bytes) :
    literal ∈ whole.constants.literals ↔
      literal ∈ left.constants.literals ∨ literal ∈ right.constants.literals := by
  rw [mem_constants_iff_number built, mem_constants_iff_number leftBuilt,
    mem_constants_iff_number rightBuilt]
  simp [numbers]

theorem message_unexpectedToken (token : Token) :
    CompileError.message (.unexpectedToken token) =
      ascii "Error (column " ++ Bytes.ofNat token.column ++ ascii "): unexpected " ++
        token.kind.name ++ ascii " token '" ++ token.literal ++ ascii "'" := by
  have words : ascii "): unexpected " = ascii "): " ++ ascii "unexpected " := by decide +kernel
  simp [CompileError.message, CompileError.atColumn, words]

/-- Tokens build a program exactly if all of them can be executed.  A program executes its tokens one
by one and has an exact pool, the programs of two lists make up that of both together, and the pool
depends on nothing but which numbers there are. -/
theorem programs_compose_with_exact_pools :
    (∀ tokens, (∃ program, ofTokens tokens = .ok program) ↔ ∀ token ∈ tokens, token.IsExecutable) ∧
    (∀ tokens, (¬ ∀ token ∈ tokens, token.IsExecutable) →
      ∃ before token after, tokens = before ++ token :: after ∧
        (∀ earlier ∈ before, earlier.IsExecutable) ∧ ¬ token.IsExecutable ∧
        ∃ fault, (∀ more, ofTokens (before ++ token :: more) = .error fault) ∧
          fault.message = ascii "Error (column " ++ Bytes.ofNat token.column ++
            ascii "): unexpected " ++ token.kind.name ++ ascii " token '" ++ token.literal ++
            ascii "'") ∧
    (∀ tokens program, ofTokens tokens = .ok program →
      List.Forall₂ Executes tokens program.instructions ∧
      program.constants.literals.Pairwise
        (List.Lex fun byte other => byte.toNat < other.toNat) ∧
      ∀ literal, literal ∈ program.constants.literals ↔
        ∃ instruction ∈ program.instructions,
          instruction.opcode = .push ∧ instruction.value? = some literal) ∧
    (∀ first second left right, ofTokens first = .ok left → ofTokens second = .ok right →
      (∃ whole, ofTokens (first ++ second) = .ok whole ∧
        whole.instructions = left.instructions ++ right.instructions ∧
        ∀ literal, literal ∈ whole.constants.literals ↔
          literal ∈ left.constants.literals ∨ literal ∈ right.constants.literals) ∧
      (left.constants = right.constants ↔
        ∀ literal, literal ∈ numbers first ↔ literal ∈ numbers second)) := by
  refine ⟨fun tokens => exists_ofTokens_iff, fun tokens some => ?_, fun tokens program built => ?_,
    fun first second left right leftBuilt rightBuilt => ⟨?_, ?_⟩⟩
  · obtain ⟨before, token, after, split, known, unknown⟩ := exists_first_unknown some
    exact ⟨before, token, after, split, known, unknown, .unexpectedToken token,
      ofTokens_of_first known unknown, message_unexpectedToken token⟩
  · exact ⟨forall₂_executes built, program.constants.pairwise_literals,
      mem_constants_iff_push built⟩
  · have built := ofTokens_append leftBuilt rightBuilt
    exact ⟨_, built, rfl, mem_constants_append leftBuilt rightBuilt built⟩
  · simp only [← mem_constants_iff_number leftBuilt, ← mem_constants_iff_number rightBuilt]
    exact ⟨fun same _ => same ▸ Iff.rfl, ConstantPool.eq_of_mem_iff⟩

/-- Literals that continue each other, an empty one and one with a high byte; then a name that was
left among the tokens. -/
theorem programs_compose_with_exact_pools_hostile :
    (∃ whole, ofTokens ([⟨.number, ascii "10", 1⟩, ⟨.number, [200], 4⟩, ⟨.plus, ascii "+", 6⟩] ++
        [⟨.number, ascii "1", 0⟩, ⟨.number, [], 0⟩, ⟨.number, ascii "10", 9⟩]) = .ok whole ∧
      whole.constants.literals = [[], ascii "1", ascii "10", [200]]) ∧
    ∃ fault, (∀ more, ofTokens (⟨.number, ascii "2", 1⟩ :: ⟨.pi, ascii "pi", 3⟩ :: more) =
        .error fault) ∧
      fault.message = ascii "Error (column 3): unexpected PI token 'pi'" := by
  obtain ⟨_, refuses, _, composes⟩ := programs_compose_with_exact_pools
  constructor
  · obtain ⟨⟨whole, built, _⟩, _⟩ := composes
      [⟨.number, ascii "10", 1⟩, ⟨.number, [200], 4⟩, ⟨.plus, ascii "+", 6⟩]
      [⟨.number, ascii "1", 0⟩, ⟨.number, [], 0⟩, ⟨.number, ascii "10", 9⟩] _ _ rfl rfl
    refine ⟨whole, built, ?_⟩
    cases built
    decide +kernel
  · obtain ⟨before, token, after, split, _, unknown, fault, refused, message⟩ :=
      refuses [⟨.number, ascii "2", 1⟩, ⟨.pi, ascii "pi", 3⟩] (by decide)
    match before with
    | [] =>
        cases split
        exact absurd (.inl rfl) unknown
    | [first] =>
        cases split
        refine ⟨fault, refused, message.trans ?_⟩
        decide +kernel
    | _ :: _ :: _ => simp at split

end Program

end Rpn

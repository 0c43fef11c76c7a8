import Rpn.Proofs.Expression.Spelling
import Rpn.Session

/-! What a successful compilation consists of: operations in the order of the instructions, whose
literals are numbers and make up the pool. -/

namespace Rpn

theorem Except.bind_eq_ok {ε α β : Type} {first : Except ε α} {next : α → Except ε β} {result : β}
    (succeeds : (first >>= next) = .ok result) :
    ∃ value, first = .ok value ∧ next value = .ok result := by
  cases first with
  | error fault => cases succeeds
  | ok value => exact ⟨value, rfl, succeeds⟩

theorem Except.map_eq_ok {ε α β : Type} {first : Except ε α} {image : α → β} {result : β}
    (succeeds : first.map image = .ok result) :
    ∃ value, first = .ok value ∧ image value = result := by
  cases first with
  | error fault => cases succeeds
  | ok value => exact ⟨value, rfl, Except.ok.inj succeeds⟩

theorem mem_of_mapM_eq_ok {ε α β : Type} {image : α → Except ε β} {items : List α}
    {results : List β} (succeeds : items.mapM image = .ok results) :
    ∀ result ∈ results, ∃ item ∈ items, image item = .ok result := by
  induction items generalizing results with
  | nil =>
      cases succeeds
      simp
  | cons item items induction =>
      rw [List.mapM_cons] at succeeds
      obtain ⟨first, found, rest⟩ := Except.bind_eq_ok succeeds
      obtain ⟨others, foundOthers, final⟩ := Except.bind_eq_ok rest
      cases final
      intro result member
      rcases List.mem_cons.mp member with rfl | member
      · exact ⟨item, by simp, found⟩
      · obtain ⟨source, sourceMember, equal⟩ := induction foundOthers result member
        exact ⟨source, by simp [sourceMember], equal⟩

/-- A list with a certain item has a first one. -/
theorem exists_first {α : Type} {IsSuch : α → Prop} [DecidablePred IsSuch] {items : List α}
    (some : ∃ item ∈ items, IsSuch item) :
    ∃ before item after, items = before ++ item :: after ∧
      (∀ earlier ∈ before, ¬ IsSuch earlier) ∧ IsSuch item := by
  have marked : (items.find? fun item => decide (IsSuch item)).isSome := by
    simpa using some
  obtain ⟨item, found⟩ := Option.isSome_iff_exists.mp marked
  obtain ⟨such, before, after, split, noneBefore⟩ := List.find?_eq_some_iff_append.mp found
  exact ⟨before, item, after, split, by simpa using noneBefore, by simpa using such⟩

/-! Operations. -/

namespace Operation

/-- Every instruction becomes the operation at its index. -/
theorem getElem?_of_ofInstructionsFrom {index : Nat} {instructions : List Instruction}
    {operations : List Operation} (checked : ofInstructionsFrom index instructions = .ok operations)
    (position : Nat) :
    operations[position]?.map Except.ok =
      instructions[position]?.map (ofInstruction (index + position)) := by
  induction instructions generalizing index operations position with
  | nil =>
      cases checked
      rfl
  | cons instruction rest induction =>
      obtain ⟨operation, found, checkedRest⟩ := Except.bind_eq_ok checked
      obtain ⟨others, foundOthers, final⟩ := Except.bind_eq_ok checkedRest
      cases final
      cases position with
      | zero => simp [found]
      | succ position =>
          have later := induction foundOthers position
          rw [Nat.add_assoc, Nat.add_comm 1 position] at later
          simpa using later

theorem length_of_ofInstructions {instructions : List Instruction} {operations : List Operation}
    (checked : ofInstructions instructions = .ok operations) :
    operations.length = instructions.length := by
  have same := getElem?_of_ofInstructionsFrom checked
  refine Nat.le_antisymm (Nat.not_lt.mp fun longer => ?_) (Nat.not_lt.mp fun longer => ?_)
  · simpa [longer] using same instructions.length
  · simpa [longer] using same operations.length

theorem value_of_ofInstruction {index : Nat} {instruction : Instruction} {literal : Bytes}
    (checked : ofInstruction index instruction = .ok (push literal)) :
    instruction.value? = some literal := by
  obtain ⟨opcode, value?⟩ := instruction
  cases opcode with
  | push =>
      rcases value? with _ | _ | ⟨first, rest⟩
      · cases checked
      · cases checked
      · cases checked
        rfl
  | _ => cases checked

/-- Every literal that is pushed comes from an instruction. -/
theorem mem_value_of_push_mem {instructions : List Instruction} {operations : List Operation}
    (checked : ofInstructions instructions = .ok operations) {literal : Bytes}
    (member : push literal ∈ operations) :
    literal ∈ instructions.filterMap (·.value?) := by
  obtain ⟨index, found⟩ := List.mem_iff_getElem?.mp member
  have same := getElem?_of_ofInstructionsFrom checked index
  rw [found, Option.map_some] at same
  obtain ⟨instruction, source, valid⟩ := Option.map_eq_some_iff.mp same.symm
  exact List.mem_filterMap.mpr
    ⟨instruction, List.mem_of_getElem? source, value_of_ofInstruction valid⟩

end Operation

/-! Compilations. -/

theorem value_of_ofToken {token : Token} {instruction : Instruction} {literal : Bytes}
    (made : Instruction.ofToken token = .ok instruction)
    (value : instruction.value? = some literal) :
    token.kind = .number ∧ token.literal = literal := by
  unfold Instruction.ofToken at made
  split at made
  · next number =>
      cases made
      exact ⟨number, Option.some.inj value⟩
  · split at made
    · cases made
      cases value
    · cases made

namespace Compilation

variable {debug : Bool} {expression : Bytes} {compilation : Compilation}

/-- The parts of a successful compilation. -/
theorem parts_of_compile (compiled : compile debug expression = .ok compilation) :
    Expression.read expression = .ok compilation.tokens ∧
      Program.ofTokens compilation.tokens = .ok compilation.program ∧
      ∃ operations, Operation.ofInstructions compilation.program.instructions = .ok operations ∧
        compilation.assembly =
          Assembly.render (Codegen.lines debug compilation.program.constants operations) := by
  obtain ⟨tokens, accepted, building⟩ := Except.bind_eq_ok compiled
  obtain ⟨program, built, generating⟩ := Except.bind_eq_ok building
  obtain ⟨assembly, generated, final⟩ := Except.bind_eq_ok generating
  cases final
  obtain ⟨operations, checked, rfl⟩ := Except.map_eq_ok generated
  exact ⟨accepted, built, operations, checked, rfl⟩

/-- The pool of a compiled program has numbers only. -/
theorem isNumber_of_mem_constants (compiled : compile debug expression = .ok compilation) :
    ∀ literal ∈ compilation.program.constants.literals, Token.IsNumber literal := by
  obtain ⟨accepted, built, _⟩ := parts_of_compile compiled
  obtain ⟨instructions, made, same⟩ := Except.map_eq_ok built
  rw [← same]
  intro literal member
  obtain ⟨instruction, instructionMember, value⟩ :=
    List.mem_filterMap.mp (ConstantPool.mem_literals_ofList.mp member)
  obtain ⟨token, tokenMember, equal⟩ := mem_of_mapM_eq_ok made instruction instructionMember
  obtain ⟨number, rfl⟩ := value_of_ofToken equal value
  exact Expression.isNumber_literal_of_read accepted token tokenMember number

theorem mem_constants_of_push_mem (compiled : compile debug expression = .ok compilation)
    {operations : List Operation}
    (checked : Operation.ofInstructions compilation.program.instructions = .ok operations)
    {literal : Bytes} (member : .push literal ∈ operations) :
    literal ∈ compilation.program.constants.literals := by
  obtain ⟨_, built, _⟩ := parts_of_compile compiled
  obtain ⟨instructions, _, same⟩ := Except.map_eq_ok built
  rw [← same] at checked ⊢
  exact ConstantPool.mem_literals_ofList.mpr (Operation.mem_value_of_push_mem checked member)

theorem operations_ne_nil (compiled : compile debug expression = .ok compilation)
    {operations : List Operation}
    (checked : Operation.ofInstructions compilation.program.instructions = .ok operations) :
    operations ≠ [] := by
  obtain ⟨accepted, built, _⟩ := parts_of_compile compiled
  obtain ⟨_, _, _, _, ⟨⟨first, begins, _⟩, _⟩, _⟩ := Expression.exists_splits_of_read accepted
  obtain ⟨rest, equal⟩ := List.head?_eq_some_iff.mp begins
  obtain ⟨instructions, made, same⟩ := Except.map_eq_ok built
  rw [equal, List.mapM_cons] at made
  obtain ⟨instruction, _, making⟩ := Except.bind_eq_ok made
  obtain ⟨others, _, final⟩ := Except.bind_eq_ok making
  cases final
  have lengths := Operation.length_of_ofInstructions checked
  rw [← same] at lengths
  exact List.ne_nil_of_length_eq_add_one lengths

end Compilation

/-! Every expression that is read is compiled. -/

theorem exists_mapM_eq_ok {ε α β : Type} {image : α → Except ε β} {items : List α}
    (succeeds : ∀ item ∈ items, ∃ result, image item = .ok result) :
    ∃ results, items.mapM image = .ok results := by
  induction items with
  | nil => exact ⟨[], rfl⟩
  | cons item items induction =>
      obtain ⟨first, found⟩ := succeeds item (by simp)
      obtain ⟨others, foundOthers⟩ := induction fun other member =>
        succeeds other (List.mem_cons_of_mem _ member)
      refine ⟨first :: others, ?_⟩
      rw [List.mapM_cons, found, foundOthers]
      rfl

/-- The instruction of a token that a text spells has an operation. -/
theorem exists_ofToken_of_spells {token : Token} (spells : Token.Spells token.kind token.literal)
    (resolved : Expression.constant? token.kind = none) (index : Nat) :
    ∃ instruction, Instruction.ofToken token = .ok instruction ∧
      ∃ operation, Operation.ofInstruction index instruction = .ok operation := by
  obtain ⟨kind, literal, column⟩ := token
  have other := spells.kind_not_mem
  cases kind with
  | number =>
      obtain ⟨shape, _, fits⟩ := spells
      have nonempty := Token.Shape.ne_nil_of_fits (fits [] fun _ _ equal => nomatch equal)
      obtain ⟨first, rest, rfl⟩ := List.exists_cons_of_ne_nil nonempty
      exact ⟨_, rfl, _, rfl⟩
  | e => cases resolved
  | pi => cases resolved
  | endOfInput => simp at other
  | invalid => simp at other
  | other => simp at other
  | _ => exact ⟨_, rfl, _, rfl⟩

theorem exists_ofInstructionsFrom {instructions : List Instruction} (index : Nat)
    (checked : ∀ instruction ∈ instructions, ∀ index,
      ∃ operation, Operation.ofInstruction index instruction = .ok operation) :
    ∃ operations, Operation.ofInstructionsFrom index instructions = .ok operations := by
  induction instructions generalizing index with
  | nil => exact ⟨[], rfl⟩
  | cons instruction rest induction =>
      obtain ⟨operation, found⟩ := checked instruction (by simp) index
      obtain ⟨operations, foundRest⟩ := induction (index + 1) fun other member =>
        checked other (List.mem_cons_of_mem _ member)
      refine ⟨operation :: operations, ?_⟩
      rw [Operation.ofInstructionsFrom, found, foundRest]
      rfl

theorem compile_of_parts {expression : Bytes} {tokens : List Token}
    {instructions : List Instruction} {operations : List Operation}
    (accepted : Expression.read expression = .ok tokens)
    (built : tokens.mapM Instruction.ofToken = .ok instructions)
    (checked : Operation.ofInstructions instructions = .ok operations) (debug : Bool) :
    compile debug expression =
      .ok ⟨tokens, .ofInstructions instructions,
        Assembly.render (Codegen.lines debug (Program.ofInstructions instructions).constants
          operations)⟩ := by
  have program : Program.ofTokens tokens = .ok (.ofInstructions instructions) := by
    rw [Program.ofTokens, built]
    rfl
  have same : Operation.ofInstructions (Program.ofInstructions instructions).instructions =
      .ok operations := checked
  simp only [compile, accepted, program, Codegen.generate, same, bind, Except.bind, Except.map,
    pure, Except.pure]

theorem exists_parts_of_read {expression : Bytes} {tokens : List Token}
    (accepted : Expression.read expression = .ok tokens) :
    ∃ instructions operations, tokens.mapM Instruction.ofToken = .ok instructions ∧
      Operation.ofInstructions instructions = .ok operations := by
  obtain ⟨_, _, _, _, _, spelled⟩ := Expression.exists_splits_of_read accepted
  have made : ∀ token ∈ tokens, ∃ instruction, Instruction.ofToken token = .ok instruction := by
    intro token member
    obtain ⟨instruction, made, _⟩ :=
      exists_ofToken_of_spells (spelled token member).1 (spelled token member).2 0
    exact ⟨instruction, made⟩
  obtain ⟨instructions, built⟩ := exists_mapM_eq_ok made
  have valid : ∀ instruction ∈ instructions, ∀ index,
      ∃ operation, Operation.ofInstruction index instruction = .ok operation := by
    intro instruction member index
    obtain ⟨token, tokenMember, source⟩ := mem_of_mapM_eq_ok built instruction member
    obtain ⟨spells, resolved⟩ := spelled token tokenMember
    obtain ⟨_, same, operation, found⟩ := exists_ofToken_of_spells spells resolved index
    cases source.symm.trans same
    exact ⟨operation, found⟩
  obtain ⟨operations, checked⟩ := exists_ofInstructionsFrom 0 valid
  exact ⟨instructions, operations, built, checked⟩

end Rpn

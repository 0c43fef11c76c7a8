import Rpn.Proofs.Compilation

/-! Why no code can be generated.  The only reason is an instruction that has none; the first one is
reported, and a program that was read from a text has none of them. -/

namespace Rpn

namespace Instruction

/-- A push without a literal, or an opcode that the machine does not have. -/
def LacksCode (instruction : Instruction) : Prop :=
  instruction.opcode = .push ∧ (instruction.value? = none ∨ instruction.value? = some []) ∨
    instruction.opcode = .other

instance : DecidablePred LacksCode := fun _ => inferInstanceAs (Decidable (_ ∧ _ ∨ _))

/-- What is said about an instruction without code. -/
def complaint (instruction : Instruction) (index : Nat) : Bytes :=
  if instruction.opcode = .push then
    ascii "PUSH instruction " ++ Bytes.ofNat index ++ ascii " has no value"
  else ascii "Unknown instruction at index " ++ Bytes.ofNat index

/-- Instructions that differ at most in what they carry without a use for it. -/
def Alike (left right : Instruction) : Prop :=
  left.opcode = right.opcode ∧ (left.opcode = .push → left.value? = right.value?)

end Instruction

namespace Operation

open Instruction

theorem ofInstruction_of_lacksCode {instruction : Instruction} (lacks : instruction.LacksCode)
    (index : Nat) :
    ∃ error, ofInstruction index instruction = .error error ∧
      error.message = instruction.complaint index := by
  obtain ⟨opcode, value?⟩ := instruction
  rcases lacks with ⟨rfl, rfl | rfl⟩ | rfl
  · exact ⟨_, rfl, rfl⟩
  · exact ⟨_, rfl, rfl⟩
  · exact ⟨_, rfl, rfl⟩

theorem exists_ofInstruction {instruction : Instruction} (has : ¬ instruction.LacksCode)
    (index : Nat) : ∃ operation, ofInstruction index instruction = .ok operation := by
  obtain ⟨opcode, value?⟩ := instruction
  cases opcode with
  | push =>
      rcases value? with _ | _ | ⟨first, rest⟩
      · exact absurd (.inl ⟨rfl, .inl rfl⟩) has
      · exact absurd (.inl ⟨rfl, .inr rfl⟩) has
      · exact ⟨_, rfl⟩
  | other => exact absurd (.inr rfl) has
  | _ => exact ⟨_, rfl⟩

/-- The first instruction without code is the one that is reported. -/
theorem ofInstructionsFrom_append {before : List Instruction} {bad : Instruction}
    (sound : ∀ instruction ∈ before, ¬ instruction.LacksCode) (lacks : bad.LacksCode)
    (after : List Instruction) (index : Nat) :
    ∃ error, ofInstructionsFrom index (before ++ bad :: after) = .error error ∧
      error.message = bad.complaint (index + before.length) := by
  induction before generalizing index with
  | nil =>
      obtain ⟨error, refused, message⟩ := ofInstruction_of_lacksCode lacks index
      refine ⟨error, ?_, message⟩
      rw [List.nil_append, ofInstructionsFrom, refused]
      rfl
  | cons instruction before induction =>
      obtain ⟨operation, found⟩ := exists_ofInstruction (sound instruction (by simp)) index
      obtain ⟨error, refused, message⟩ := induction
        (fun other member => sound other (List.mem_cons_of_mem _ member)) (index + 1)
      refine ⟨error, ?_, ?_⟩
      · rw [List.cons_append, ofInstructionsFrom, found, refused]
        rfl
      · rw [message, List.length_cons, Nat.add_assoc, Nat.add_comm 1]

theorem ofInstruction_of_alike {left right : Instruction} (alike : left.Alike right)
    (index : Nat) : ofInstruction index left = ofInstruction index right := by
  obtain ⟨opcode, value?⟩ := left
  obtain ⟨_, otherValue?⟩ := right
  obtain ⟨rfl, values⟩ := alike
  cases opcode with
  | push =>
      cases values rfl
      rfl
  | _ => rfl

theorem ofInstructionsFrom_of_alike {left right : List Instruction}
    (alike : List.Forall₂ Alike left right) (index : Nat) :
    ofInstructionsFrom index left = ofInstructionsFrom index right := by
  induction alike generalizing index with
  | nil => rfl
  | cons first _ induction =>
      rw [ofInstructionsFrom, ofInstructionsFrom, ofInstruction_of_alike first, induction]

end Operation

namespace Codegen

theorem generate_eq_error_iff {debug : Bool} {program : Program} {error : CompileError} :
    generate debug program = .error error ↔
      Operation.ofInstructions program.instructions = .error error := by
  unfold generate
  cases Operation.ofInstructions program.instructions <;> simp [Except.map]

theorem exists_generate_eq_error_iff (debug : Bool) (program : Program) :
    (∃ error, generate debug program = .error error) ↔
      ∃ instruction ∈ program.instructions, instruction.LacksCode := by
  simp only [generate_eq_error_iff]
  constructor
  · rintro ⟨error, refused⟩
    by_contra! sound
    obtain ⟨operations, found⟩ := exists_ofInstructionsFrom 0 fun instruction member =>
      Operation.exists_ofInstruction (sound instruction member)
    rw [Operation.ofInstructions, found] at refused
    cases refused
  · intro lacking
    obtain ⟨before, bad, after, split, sound, lacks⟩ := exists_first lacking
    obtain ⟨error, refused, _⟩ := Operation.ofInstructionsFrom_append sound lacks after 0
    exact ⟨error, split ▸ refused⟩

theorem generate_of_first {program : Program} {before after : List Instruction}
    {bad : Instruction} (split : program.instructions = before ++ bad :: after)
    (sound : ∀ instruction ∈ before, ¬ instruction.LacksCode) (lacks : bad.LacksCode)
    (debug : Bool) :
    ∃ error, generate debug program = .error error ∧
      error.message = bad.complaint before.length := by
  obtain ⟨error, refused, message⟩ := Operation.ofInstructionsFrom_append sound lacks after 0
  refine ⟨error, generate_eq_error_iff.mpr (split ▸ refused), ?_⟩
  rw [message, Nat.zero_add]

end Codegen

theorem compile_eq_error_iff {debug : Bool} {text : Bytes} {error : CompileError} :
    compile debug text = .error error ↔ Expression.read text = .error error := by
  cases read : Expression.read text with
  | error fault => simp [compile, read, bind, Except.bind]
  | ok tokens =>
      obtain ⟨instructions, operations, built, checked⟩ := exists_parts_of_read read
      simp [compile_of_parts read built checked]

/-- Code is refused for the first instruction that has none, whatever else a program holds.  A text
that is read has code, so that a compilation fails only where reading does. -/
theorem only_reading_rejects :
    (∀ debug program,
      ((∃ error, Codegen.generate debug program = .error error) ↔
        ∃ instruction ∈ program.instructions, instruction.LacksCode) ∧
      ∀ before bad after, program.instructions = before ++ bad :: after →
        (∀ instruction ∈ before, ¬ instruction.LacksCode) → bad.LacksCode →
        ∃ error, Codegen.generate debug program = .error error ∧
          error.message = bad.complaint before.length) ∧
    (∀ debug debugToo program programToo,
      List.Forall₂ Instruction.Alike program.instructions programToo.instructions →
      ∀ error, Codegen.generate debug program = .error error ↔
        Codegen.generate debugToo programToo = .error error) ∧
    (∀ text tokens, Expression.read text = .ok tokens →
      ∃ program, Program.ofTokens tokens = .ok program ∧
        ∀ debug, ∃ assembly, Codegen.generate debug program = .ok assembly) ∧
    ∀ debug text error,
      compile debug text = .error error ↔ Expression.read text = .error error := by
  refine ⟨fun debug program => ⟨Codegen.exists_generate_eq_error_iff debug program, ?_⟩, ?_, ?_,
    fun debug text error => compile_eq_error_iff⟩
  · intro before bad after split sound lacks
    exact Codegen.generate_of_first split sound lacks debug
  · intro debug debugToo program programToo alike error
    rw [Codegen.generate_eq_error_iff, Codegen.generate_eq_error_iff, Operation.ofInstructions,
      Operation.ofInstructions, Operation.ofInstructionsFrom_of_alike alike]
  · intro text tokens read
    obtain ⟨instructions, operations, built, checked⟩ := exists_parts_of_read read
    refine ⟨.ofInstructions instructions, congrArg (Except.map _) built, fun debug => ?_⟩
    cases generated : Codegen.generate debug (.ofInstructions instructions) with
    | ok assembly => exact ⟨assembly, rfl⟩
    | error error => cases checked.symm.trans (Codegen.generate_eq_error_iff.mp generated)

/-- The literal of a sum is ignored, and so is the unknown instruction behind the empty push. -/
theorem only_reading_rejects_empty_push :
    ∃ error,
      Codegen.generate true
        ⟨[⟨.plus, some (ascii "x")⟩, ⟨.push, some []⟩, ⟨.other, none⟩], .empty⟩ = .error error ∧
      Codegen.generate false
        ⟨[⟨.plus, none⟩, ⟨.push, some []⟩, ⟨.other, some (ascii "y")⟩], .ofList [ascii "7"]⟩ =
          .error error ∧
      error.message = ascii "PUSH instruction 1 has no value" := by
  obtain ⟨faults, same, _⟩ := only_reading_rejects
  obtain ⟨error, refused, message⟩ := (faults true
    ⟨[⟨.plus, some (ascii "x")⟩, ⟨.push, some []⟩, ⟨.other, none⟩], .empty⟩).2
    [⟨.plus, some (ascii "x")⟩] ⟨.push, some []⟩ [⟨.other, none⟩] rfl (by decide) (by decide)
  have alike : List.Forall₂ Instruction.Alike
      [⟨.plus, some (ascii "x")⟩, ⟨.push, some []⟩, ⟨.other, none⟩]
      [⟨.plus, none⟩, ⟨.push, some []⟩, ⟨.other, some (ascii "y")⟩] :=
    .cons ⟨rfl, nofun⟩ <| .cons ⟨rfl, fun _ => rfl⟩ <| .cons ⟨rfl, nofun⟩ .nil
  exact ⟨error, refused, (same true false _ _ alike error).mp refused, message⟩

end Rpn

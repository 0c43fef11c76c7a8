import Rpn.Proofs.Codegen.Namespace

/-! The text of a compiled expression determines its program: a file can be read back from its text,
and the remarks of a file name its operations. -/

namespace Rpn

namespace Operation

/-- The instruction that has an operation and carries nothing else. -/
def toInstruction : Operation → Instruction
  | push literal => ⟨.push, some literal⟩
  | plus => ⟨.plus, none⟩
  | minus => ⟨.minus, none⟩
  | multiply => ⟨.multiply, none⟩
  | divide => ⟨.divide, none⟩
  | modulus => ⟨.modulus, none⟩
  | power => ⟨.power, none⟩
  | factorial => ⟨.factorial, none⟩
  | abs => ⟨.abs, none⟩
  | sin => ⟨.sin, none⟩
  | cos => ⟨.cos, none⟩
  | tan => ⟨.tan, none⟩
  | sqrt => ⟨.sqrt, none⟩
  | dup => ⟨.dup, none⟩
  | swap => ⟨.swap, none⟩

theorem eq_toInstruction {token : Token} {instruction : Instruction} {index : Nat}
    {operation : Operation} (made : Instruction.ofToken token = .ok instruction)
    (checked : ofInstruction index instruction = .ok operation) :
    instruction = operation.toInstruction := by
  obtain ⟨kind, literal, column⟩ := token
  cases kind with
  | number =>
      cases made
      cases literal <;> cases checked
      rfl
  | _ =>
      cases made <;> cases checked <;> rfl

/-- Instructions that were made from tokens are known from their operations. -/
theorem map_toInstruction {tokens : List Token} {instructions : List Instruction}
    {operations : List Operation} (built : tokens.mapM Instruction.ofToken = .ok instructions)
    (checked : ofInstructions instructions = .ok operations) :
    instructions = operations.map toInstruction := by
  refine List.ext_getElem? fun index => ?_
  have same := getElem?_of_ofInstructionsFrom checked index
  rw [List.getElem?_map]
  cases found : instructions[index]? with
  | none =>
      rw [found] at same
      rw [Option.map_eq_none_iff.mp same]
      rfl
  | some instruction =>
      rw [found] at same
      obtain ⟨operation, foundOperation, valid⟩ := Option.map_eq_some_iff.mp same
      obtain ⟨token, _, made⟩ :=
        mem_of_mapM_eq_ok built instruction (List.mem_of_getElem? found)
      rw [foundOperation, eq_toInstruction made valid.symm]
      rfl

end Operation

namespace Codegen

open Assembly

/-! Titles. -/

/-- The operations that are known from their title alone. -/
def titled : List (Bytes × Operation) :=
  [.plus, .minus, .multiply, .divide, .modulus, .power, .factorial, .abs, .sin, .cos, .tan, .sqrt,
    .dup, .swap].map fun operation => (title operation, operation)

def ofTitle? (text : Bytes) : Option Operation :=
  match after? (ascii "[PUSH] ") text with
  | some literal => some (.push literal)
  | none => titled.lookup text

theorem ofTitle?_title (operation : Operation) : ofTitle? (title operation) = some operation := by
  cases operation with
  | push literal => rw [title, ofTitle?, after?_append]
  | _ => rfl

theorem title_injective {left right : Operation} (same : title left = title right) :
    left = right := by
  have found := congrArg ofTitle? same
  rwa [ofTitle?_title, ofTitle?_title, Option.some.injEq] at found

/-- Titles begin with a bracket. -/
theorem head?_title (operation : Operation) : (title operation).head? = some Ascii.openBracket := by
  cases operation <;> rfl

/-! Remarks. -/

/-- The remarks of a file, in the order of its lines. -/
def remarks (file : List Line) : List Bytes :=
  file.filterMap fun
    | .remark text => some text
    | _ => none

@[simp] theorem remarks_append (first second : List Line) :
    remarks (first ++ second) = remarks first ++ remarks second :=
  List.filterMap_append

theorem remarks_block (index : Nat) (operation : Operation) :
    remarks (block index operation) = [title operation] := by
  cases operation <;> rfl

theorem remarks_blocksFrom (index : Nat) (operations : List Operation) :
    remarks (blocksFrom index operations) = operations.map title := by
  induction operations generalizing index with
  | nil => rfl
  | cons operation rest induction =>
      rw [blocksFrom, remarks_append, remarks_block, induction]
      rfl

theorem remarks_constants (pool : ConstantPool) : remarks (constants pool) = [] := by
  refine List.filterMap_eq_nil_iff.mpr fun line member => ?_
  rcases mem_constants.mp member with ⟨_, rfl⟩ | ⟨literal, _, rfl⟩ <;> rfl

theorem remarks_lines (debug : Bool) (pool : ConstantPool) (operations : List Operation) :
    remarks (lines debug pool operations) =
      remarks (debugBreak debug) ++ operations.map title ++ [ascii "[PRINT]"] := by
  have parts : remarks preamble = [] ∧ remarks cells = [] ∧ remarks messages = [] ∧
      remarks start = [] ∧ remarks footer = [ascii "[PRINT]"] := by decide
  obtain ⟨noPreamble, noCells, noMessages, noStart, print⟩ := parts
  simp [lines, header, remarks_constants, remarks_blocksFrom, noPreamble, noCells, noMessages,
    noStart, print]

/-- Only the debug break has a remark that is no title. -/
theorem debug_eq_of_remarks {first second : Bool} {left right : List Operation}
    (same : remarks (debugBreak first) ++ left.map title ++ [ascii "[PRINT]"] =
      remarks (debugBreak second) ++ right.map title ++ [ascii "[PRINT]"]) : first = second := by
  have absent : ∀ operations : List Operation,
      ascii "Debug-break" ∉ operations.map title ++ [ascii "[PRINT]"] := by
    intro operations member
    rcases List.mem_append.mp member with titles | print
    · obtain ⟨operation, _, equal⟩ := List.mem_map.mp titles
      have bracket := head?_title operation
      rw [equal] at bracket
      exact absurd bracket (by decide)
    · exact absurd (List.mem_singleton.mp print) (by decide)
  have present : ∀ operations : List Operation,
      ascii "Debug-break" ∈
        remarks (debugBreak true) ++ operations.map title ++ [ascii "[PRINT]"] := fun _ =>
    List.mem_append_left _ (List.mem_append_left _ (by decide))
  cases first <;> cases second
  · rfl
  · exact absurd (same ▸ present right) (absent left)
  · exact absurd (same ▸ present left) (absent right)
  · rfl

/-- A file determines its operations and whether it has a debug break. -/
theorem operations_eq_of_lines {first second : Bool} {pool other : ConstantPool}
    {left right : List Operation} (same : lines first pool left = lines second other right) :
    first = second ∧ left = right := by
  have texts := congrArg remarks same
  rw [remarks_lines, remarks_lines] at texts
  have debug := debug_eq_of_remarks texts
  subst debug
  have titles := List.append_cancel_left (List.append_cancel_right texts)
  exact ⟨rfl, List.map_injective_iff.mpr (fun _ _ => title_injective) titles⟩

/-- Expressions are compiled to the same text exactly if they have the same instructions and are
compiled alike. -/
theorem compiled_text_determines_program {first second : Bytes}
    {firstTokens secondTokens : List Token} (firstRead : Expression.read first = .ok firstTokens)
    (secondRead : Expression.read second = .ok secondTokens) (firstDebug secondDebug : Bool) :
    ∃ left right,
      compile firstDebug first = .ok left ∧ compile secondDebug second = .ok right ∧
      Program.ofTokens firstTokens = .ok left.program ∧
      Program.ofTokens secondTokens = .ok right.program ∧
      (left.assembly = right.assembly ↔
        firstDebug = secondDebug ∧ left.program.instructions = right.program.instructions) := by
  obtain ⟨leftInstructions, leftOperations, leftBuilt, leftChecked⟩ :=
    exists_parts_of_read firstRead
  obtain ⟨rightInstructions, rightOperations, rightBuilt, rightChecked⟩ :=
    exists_parts_of_read secondRead
  have leftCompiled := compile_of_parts firstRead leftBuilt leftChecked firstDebug
  have rightCompiled := compile_of_parts secondRead rightBuilt rightChecked secondDebug
  refine ⟨_, _, leftCompiled, rightCompiled, congrArg (Except.map _) leftBuilt,
    congrArg (Except.map _) rightBuilt, fun texts => ?_, ?_⟩
  · have leftFile := read?_render_lines firstDebug
      (Compilation.isNumber_of_mem_constants leftCompiled)
      fun literal => Compilation.mem_constants_of_push_mem leftCompiled leftChecked
    have rightFile := read?_render_lines secondDebug
      (Compilation.isNumber_of_mem_constants rightCompiled)
      fun literal => Compilation.mem_constants_of_push_mem rightCompiled rightChecked
    have files := leftFile.symm.trans ((congrArg read? texts).trans rightFile)
    obtain ⟨debug, operations⟩ := operations_eq_of_lines (Option.some.inj files)
    refine ⟨debug, ?_⟩
    change leftInstructions = rightInstructions
    rw [Operation.map_toInstruction leftBuilt leftChecked,
      Operation.map_toInstruction rightBuilt rightChecked, operations]
  · rintro ⟨rfl, instructions⟩
    cases (show leftInstructions = rightInstructions from instructions)
    cases leftChecked.symm.trans rightChecked
    rfl

theorem compiled_text_determines_program_respelled :
    ∃ left right,
      compile true (ascii "3 dup * !") = .ok left ∧
      compile true (ascii " 3\tdup *factorial") = .ok right ∧
      left.assembly = right.assembly := by
  have firstRead : Expression.read (ascii "3 dup * !") =
      .ok [⟨.number, ascii "3", 1⟩, ⟨.dup, ascii "dup", 3⟩, ⟨.times, ascii "*", 7⟩,
        ⟨.factorial, ascii "!", 9⟩] := by
    decide +kernel
  have secondRead : Expression.read (ascii " 3\tdup *factorial") =
      .ok [⟨.number, ascii "3", 2⟩, ⟨.dup, ascii "dup", 4⟩, ⟨.times, ascii "*", 8⟩,
        ⟨.factorial, ascii "factorial", 9⟩] := by
    decide +kernel
  obtain ⟨left, right, leftCompiled, rightCompiled, leftBuilt, rightBuilt, determined⟩ :=
    compiled_text_determines_program firstRead secondRead true true
  have same : left.program = right.program :=
    Except.ok.inj (leftBuilt.symm.trans rightBuilt)
  exact ⟨left, right, leftCompiled, rightCompiled, determined.mpr ⟨rfl, by rw [same]⟩⟩

end Codegen

end Rpn

import Rpn.Proofs.Machine.BlockLevels
import Rpn.Proofs.Machine.Correctness

/-! The stack discipline of compiled programs.  The depth cell, the stack pointer and the registers
of the floating-point unit agree at the start of every block, and what belongs to the caller is
untouched until the epilogue. -/

namespace Rpn.Machine

open Assembly Codegen Operation

variable {operations earlier later : List Operation}

/-! Where blocks begin. -/

theorem blocksFrom_append (index : Nat) (earlier later : List Operation) :
    blocksFrom index (earlier ++ later) =
      blocksFrom index earlier ++ blocksFrom (index + earlier.length) later := by
  induction earlier generalizing index with
  | nil => rfl
  | cons operation earlier induction =>
      rw [List.cons_append, blocksFrom, blocksFrom, induction, List.append_assoc,
        List.length_cons, Nat.add_assoc, Nat.add_comm 1]

theorem eq_nil_of_blocksFrom_eq_nil {index : Nat} (empty : blocksFrom index operations = []) :
    operations = [] := by
  cases operations with
  | nil => rfl
  | cons operation operations => cases empty

/-- The lines from a block on tell which block it is. -/
theorem eq_of_blocksFrom_eq {before after : List Operation}
    (same : earlier ++ later = before ++ after)
    (equal : blocksFrom earlier.length later = blocksFrom before.length after) :
    earlier = before := by
  rcases List.append_eq_append_iff.mp same with ⟨middle, rfl, rfl⟩ | ⟨middle, rfl, rfl⟩
  · rw [blocksFrom_append, List.length_append] at equal
    rw [eq_nil_of_blocksFrom_eq_nil (List.append_left_eq_self.mp equal), List.append_nil]
  · rw [blocksFrom_append, List.length_append] at equal
    rw [eq_nil_of_blocksFrom_eq_nil (List.append_left_eq_self.mp equal.symm), List.append_nil]

/-- Blocks and the footer begin with an empty line. -/
theorem eq_blank_of_blocksFrom {line : Line} {tail : List Line} {index : Nat}
    (equal : line :: tail = blocksFrom index operations ++ footer) : line = .blank := by
  cases operations with
  | nil => exact (List.cons.inj equal).1
  | cons operation operations => exact (List.cons.inj equal).1

/-! The levels of a file. -/

/-- A handler is met from anywhere, and the label of a block when its operands are taken. -/
def labelLevels (operations : List Operation) (symbol : Symbol) (level : Level) : Prop :=
  symbol ∈ Handler.all ∨
    ∃ earlier operation later depth, operations = earlier ++ operation :: later ∧
      symbol ∈ localLabels earlier.length operation ∧
      depth? earlier = some (depth + operation.operandCount) ∧
      level = working depth operation.operandCount

/-- Between two blocks the level is known, and the footer has an entry. -/
def milestones (operations : List Operation) (level : Level) (lines : List Line) : Prop :=
  (∀ earlier later, operations = earlier ++ later →
    lines = blocksFrom earlier.length later ++ footer →
      ∃ depth, depth? earlier = some depth ∧ level = boundary depth) ∧
  (lines = .instr (.jumpIf .below Handler.tooFew) :: printing →
    level.evidence = .compared 1 ∧ 1 ≤ level.depth)

theorem not_mem_handlers {symbol : Symbol} {index : Nat} {operation : Operation}
    (member : symbol ∈ localLabels index operation) : symbol ∉ Handler.all := by
  intro fixed
  have digit := (localLabels_spec member).2
  have plain := (fixedSymbols_spec.2 symbol (List.mem_append_right _ fixed)).2
  exact Bool.noConfusion (digit.symm.trans plain)

theorem labelLevels_iff {operation : Operation} (split : operations = earlier ++ operation :: later)
    {symbol : Symbol} (member : symbol ∈ localLabels earlier.length operation) (level : Level) :
    labelLevels operations symbol level ↔
      ∃ depth, depth? earlier = some (depth + operation.operandCount) ∧
        level = working depth operation.operandCount := by
  constructor
  · rintro (fixed | ⟨before, other, after, depth, same, own, counted, equal⟩)
    · exact absurd fixed (not_mem_handlers member)
    · obtain ⟨role, _, rfl⟩ := List.mem_map.mp member
      obtain ⟨purpose, _, named⟩ := List.mem_map.mp own
      have lengths := (localLabel_injective named).2
      obtain ⟨rfl, rest⟩ := List.append_inj (same.symm.trans split) lengths
      cases rest
      exact ⟨depth, counted, equal⟩
  · rintro ⟨depth, counted, equal⟩
    exact .inr ⟨earlier, operation, later, depth, split, member, counted, equal⟩

theorem free_milestones (operations : List Operation) :
    Free (labelLevels operations) (milestones operations) footer.length where
  handlers _ member _ := .inl member
  remark _ _ _ := ⟨fun _ _ _ equal => (nomatch eq_blank_of_blocksFrom equal), nofun⟩
  label _ _ _ := ⟨fun _ _ _ equal => (nomatch eq_blank_of_blocksFrom equal), nofun⟩
  instr _ _ tail far := by
    refine ⟨fun _ _ _ equal => (nomatch eq_blank_of_blocksFrom equal), fun equal => ?_⟩
    -- The blocks look for their operands as the footer does, but more lines follow them.
    cases equal
    simp [footer_eq] at far
    omega

theorem own_labelLevels {operation : Operation} {depth : Nat}
    (split : operations = earlier ++ operation :: later)
    (counted : depth? earlier = some (depth + operation.operandCount)) :
    Own (labelLevels operations) earlier.length depth operation := by
  intro symbol member level
  rw [labelLevels_iff split member, counted]
  simp

theorem milestones_boundary {depth : Nat} (split : operations = earlier ++ later)
    (counted : depth? earlier = some depth) :
    milestones operations (boundary depth) (blocksFrom earlier.length later ++ footer) := by
  refine ⟨fun before after same lines => ?_, fun lines => ?_⟩
  · rw [← eq_of_blocksFrom_eq (split.symm.trans same) (List.append_cancel_right lines)]
    exact ⟨depth, counted, rfl⟩
  · cases eq_blank_of_blocksFrom lines.symm

/-- Nothing is asked at the end of a file. -/
theorem milestones_of_suffix {level : Level} {tail : List Line} (inside : tail <:+ printing) :
    milestones operations level tail := by
  have bound := inside.length_le
  constructor
  · rintro before after _ rfl
    simp [footer_eq] at bound
    omega
  · rintro rfl
    simp at bound

/-- The footer is passed with a single entry; more of them lead to a handler, and there are no
fewer. -/
theorem walks_footer (bounded : operations.length < 2 ^ 64) (nonempty : operations ≠ []) :
    Walks (labelLevels operations) (milestones operations) ((depth? operations).map boundary)
      footer := by
  have free := free_milestones operations
  have printed : Walks (labelLevels operations) (milestones operations)
      (some ⟨1, .words 1, 0, 0, .compared 1⟩) printing :=
    (walks_printing free.handlers).asking fun _ _ => milestones_of_suffix
  have passed : Walks (labelLevels operations) (milestones operations) none
      (.instr (.jumpIf .below Handler.tooFew) :: printing) := .skip nofun printed.forget
  have quiet : ∀ level instruction tail, instruction ≠ .jumpIf .below Handler.tooFew →
      milestones operations level (.instr instruction :: tail) := fun _ _ _ other =>
    ⟨fun _ _ _ equal => (nomatch eq_blank_of_blocksFrom equal), fun equal =>
      absurd (Line.instr.inj (List.cons.inj equal).1) other⟩
  cases counted : depth? operations with
  | none => exact .skip nofun (.skip nofun (.skip nofun (.skip nofun passed)))
  | some depth =>
      have small := (depth?_le_length counted).trans_lt bounded
      have positive := (counts_of_depth? counted).2 nonempty
      have after : (boundary depth).after (.compareCell Cell.depth (1 : Nat)) =
          some { boundary depth with evidence := .compared 1 } :=
        after_compareDepth small (by decide)
      have compared : (boundary depth).pass (.instr (.compareCell Cell.depth 1)) =
          some (some { boundary depth with evidence := .compared 1 }, []) :=
        congrArg (Option.map fun next => (some next, [])) after
      refine .next (milestones_boundary (List.append_nil _).symm counted) rfl
        (.next (free.remark ..) rfl (.next (quiet _ _ _ nofun) compared ?_))
      by_cases single : depth = 1
      · subst single
        have checks : milestones operations ⟨1, .words 1, 0, 0, .compared 1⟩
            (.instr (.jumpIf .below Handler.tooFew) :: printing) :=
          ⟨fun _ _ _ equal => (nomatch eq_blank_of_blocksFrom equal), fun _ => ⟨rfl, le_refl 1⟩⟩
        exact .next (quiet _ _ _ nofun) rfl (.next checks rfl printed)
      · have more : 1 < depth := by omega
        have jumped : { boundary depth with evidence := .compared 1 }.pass
            (.instr (.jumpIf .above Handler.tooMany)) =
            some (none, [(Handler.tooMany, { boundary depth with evidence := .compared 1 })]) := by
          simp [Level.pass, Level.branch, boundary, more]
        refine .line (quiet _ _ _ nofun) jumped ?_ passed
        simpa using free.handlers _ (by decide) _

/-- The blocks from one of them on are walked through at the levels that the depth gives. -/
theorem walks_blocks (bounded : operations.length < 2 ^ 64) (nonempty : operations ≠ [])
    (split : operations = earlier ++ later) :
    Walks (labelLevels operations) (milestones operations) ((depth? earlier).map boundary)
      (blocksFrom earlier.length later ++ footer) := by
  -- The blocks that are left are walked through first, so that each block has its continuation.
  induction later generalizing earlier with
  | nil =>
      rw [List.append_nil] at split
      rw [← split]
      exact walks_footer bounded nonempty
  | cons operation later induction =>
      have onwards := induction (split.trans (List.append_cons ..))
      rw [depth?_append, List.length_append, List.length_singleton] at onwards
      have far : footer.length ≤ (blocksFrom (earlier.length + 1) later ++ footer).length := by simp
      cases counted : depth? earlier with
      | none =>
          -- An earlier block lacks an operand: control does not get here.
          rw [counted] at onwards
          rw [blocksFrom, List.append_assoc]
          refine .none_append (fun symbol member level met => ?_) onwards
          rw [defined_block] at member
          obtain ⟨depth, known, _⟩ := (labelLevels_iff split member level).mp met
          cases counted.symm.trans known
      | some depth =>
          rw [counted, Option.bind_some] at onwards
          have starts := milestones_boundary split counted
          rw [blocksFrom, List.append_assoc] at starts ⊢
          have free := free_milestones operations
          refine .next starts rfl (.next (free.remark ..) rfl ?_)
          by_cases few : depth < operation.operandCount
          · refine walks_code_tooFew free far few (fun symbol member level met => ?_)
              onwards.forget
            obtain ⟨less, known, _⟩ := (labelLevels_iff split member level).mp met
            cases counted.symm.trans known
            omega
          · obtain ⟨less, rfl⟩ := Nat.exists_eq_add_of_le' (Nat.le_of_not_lt few)
            rw [depthAfter?_add] at onwards
            have small := depth?_le_length counted
            rw [split, List.length_append] at bounded
            exact walks_code free far (own_labelLevels split counted) (by omega) onwards

theorem mem_defined_of_labelLevels {symbol : Symbol} {level : Level}
    (met : labelLevels operations symbol level) :
    symbol ∈ defined (blocksFrom 0 operations ++ footer) := by
  rcases met with fixed | ⟨earlier, operation, later, _, rfl, own, _⟩
  · exact mem_defined (List.mem_append_right _ (label_mem_footer symbol fixed)) rfl
  · have placed : .label symbol ∈ blocksFrom 0 (earlier ++ operation :: later) := by
      rw [blocksFrom_append, Nat.zero_add, blocksFrom]
      exact List.mem_append_right _ (List.mem_append_left _ (label_mem_block own))
    exact mem_defined (List.mem_append_left _ placed) rfl

/-- Control stays in code that is walked through, wherever a file jumps. -/
theorem closed_lines {pool : ConstantPool}
    (once : (defined (lines false pool operations)).Nodup) (bounded : operations.length < 2 ^ 64)
    (nonempty : operations ≠ []) :
    Closed (lines false pool operations) (labelLevels operations) (milestones operations) := by
  intro symbol level code met found
  rw [lines, List.append_assoc] at once found
  have walks := walks_blocks bounded nonempty (List.nil_append operations).symm
  have missing : symbol ∉ defined (header false pool) := by
    intro member
    rw [defined_append] at once
    exact (List.nodup_append.mp once).2.2 symbol member symbol (mem_defined_of_labelLevels met) rfl
  rw [codeAt?_append _ missing] at found
  exact walks.code found met

/-! What the levels tell. -/

section Discipline

variable {unit : FloatUnit} {caller : Caller}

/-- After some operations, the depth cell and the stack pointer show the entries that their number
gives, and the floating-point unit is empty. -/
structure Balanced (caller : Caller) (earlier : List Operation) (depth : Nat) (state : State unit) :
    Prop where
  count : depth + earlier.countP isBinary = earlier.countP addsEntry
  positive : earlier ≠ [] → 1 ≤ depth
  cell : state.cells Cell.depth = some (.ofNat 64 depth)
  pointer : state.stackPointer = caller.base - 8 * depth
  floats : state.floats = []

/-- Where a program may be after its first instruction.  It is balanced at the start of every block
and of the footer, where it has an entry.  Only its epilogue takes anything of the caller from the
stack, and it returns to where the caller wants. -/
inductive Disciplined (operations : List Operation) (caller : Caller) : Position unit → Prop
  | inside {state : State unit} {rest : List Line} (untouched : Untouched caller state)
      (pointer : state.stackPointer ≤ caller.base)
      (starts : ∀ earlier later, operations = earlier ++ later →
        rest = blocksFrom earlier.length later ++ footer →
          ∃ depth, Balanced caller earlier depth state)
      (checks : rest = .instr (.jumpIf .below Handler.tooFew) :: printing →
        state.flags.test .below = some false)
      (calls : ∀ function tail, rest = .instr (.call function) :: tail →
        state.stackPointer % 16 = 0)
      (writes : ∀ instruction tail, rest = .instr instruction :: tail →
        (∀ register ∈ instruction.written, isCallerSaved register = true) ∨
          ∃ after, rest = epilogue ++ after) :
      Disciplined operations caller (.running state rest)
  | leaving {state : State unit} {rest : List Line} (leaving : Leaving caller state rest) :
      Disciplined operations caller (.running state rest)
  | returned {state : State unit} (left : Left caller state) :
      Disciplined operations caller (.returned state caller.target)
  | exited {state : State unit} (untouched : Untouched caller state)
      (pointer : state.stackPointer ≤ caller.base) :
      Disciplined operations caller (.exited state)

theorem balanced_of_agrees {depth : Nat} {state : State unit}
    (counted : depth? earlier = some depth) (agrees : Agrees caller (boundary depth) state) :
    Balanced caller earlier depth state := by
  obtain ⟨count, positive⟩ := counts_of_depth? counted
  have height : state.stackPointer + 8 * depth = caller.base := agrees.height
  have floats : state.floats.length = if state.outOfRange then 0 else 0 := agrees.floats
  rw [ite_self] at floats
  exact ⟨count, positive, agrees.depth, by omega, List.eq_nil_of_length_eq_zero floats⟩

theorem disciplined_of_kept (even : caller.base % 16 = 0) {position : Position unit}
    (kept : Kept caller (labelLevels operations) (milestones operations) position) :
    Disciplined operations caller position := by
  cases kept with
  | @inside level state rest agrees walks =>
      refine .inside agrees.toUntouched agrees.height.le (fun earlier later split lines => ?_)
        (fun lines => ?_) (fun function tail lines => ?_) fun instruction tail lines => ?_
      · have asked := walks.visited (by simp [lines, footer_eq])
        obtain ⟨depth, counted, rfl⟩ := asked.1 earlier later split lines
        exact ⟨depth, balanced_of_agrees counted agrees⟩
      · have asked := walks.visited (by rw [lines]; nofun)
        obtain ⟨compared, enough⟩ := asked.2 lines
        have shown := agrees.evidence
        rw [compared] at shown
        rw [shown.1, decide_eq_false (Nat.not_lt.mpr enough)]
      · rw [lines] at walks
        have height := agrees.height
        rcases walks.height_of_call with known | known <;> rw [known] at height
        · exact height.2
        · change state.stackPointer + 8 * ((0 : Nat) : Int) = caller.base at height
          omega
      · rw [lines] at walks ⊢
        exact walks.written
  | leaving leaving => exact .leaving leaving
  | returned left => exact .returned left
  | exited agrees => exact .exited agrees.toUntouched agrees.height.le

end Discipline

/-! Whole programs. -/

theorem agrees_entry {file : List Line} {pool : ConstantPool} (unit : FloatUnit)
    (registers : Register → Word) (vector : Word) (stackPointer : Int) (memory : Int → Word)
    (once : (defined file).Nodup) (inside : ∀ line ∈ header false pool, line ∈ file) :
    Agrees ⟨stackPointer, registers, memory stackPointer⟩ (boundary 0)
      ((entryState unit file registers vector stackPointer memory).push (registers .rbp)) where
  saved := if_pos rfl
  target := if_neg (by change stackPointer ≠ stackPointer - 8; omega)
  registers := fun _ _ => rfl
  height := Int.add_zero _
  depth := (holds_entry vector once inside).depth
  floats := rfl
  evidence := trivial

def entryCode (operations : List Operation) : List Line :=
  .instr (.push .rbp) :: .instr (.storeValue Cell.depth 0) ::
    (blocksFrom 0 operations ++ footer)

theorem codeAt?_entry {pool : ConstantPool}
    (once : (defined (lines false pool operations)).Nodup) :
    codeAt? entry (lines false pool operations) = some (entryCode operations) := by
  refine codeAt?_of_suffix once ?_
  rw [lines_eq_prologue_append]
  exact List.suffix_append ..

theorem disciplined_of_reaches {pool : ConstantPool} {unit : FloatUnit} {platform : Platform}
    {registers : Register → Word} {vector : Word} {stackPointer : Int}
    (aligned : stackPointer % 16 = 8) {memory : Int → Word}
    (once : (defined (lines false pool operations)).Nodup) (bounded : operations.length < 2 ^ 64)
    (nonempty : operations ≠ []) {start position : Position unit}
    (entered : start = .running (entryState unit (lines false pool operations) registers vector
      stackPointer memory) (entryCode operations))
    (reaches : Reaches platform (lines false pool operations) start position) :
    position = start ∨
      Disciplined operations ⟨stackPointer, registers, memory stackPointer⟩ position := by
  subst entered
  -- The levels begin after the first instruction, which saves the frame pointer.
  cases reaches with
  | refl => exact .inl rfl
  | line taken later =>
      cases taken
      have even : Caller.base ⟨stackPointer, registers, memory stackPointer⟩ % 16 = 0 := by
        change (stackPointer - 8) % 16 = 0
        omega
      have agrees := agrees_entry unit registers vector stackPointer memory once
        fun _ => mem_lines_of_mem_header
      have started : milestones operations (boundary 0)
          (.instr (.storeValue Cell.depth 0) :: (blocksFrom 0 operations ++ footer)) :=
        (free_milestones operations).instr _ _ _ (by simp)
      have walks := walks_blocks bounded nonempty (List.nil_append operations).symm
      have kept := kept_of_reaches (closed_lines once bounded nonempty)
        (.inside agrees (.next started rfl walks)) later
      exact .inr (disciplined_of_kept even kept)

end Rpn.Machine

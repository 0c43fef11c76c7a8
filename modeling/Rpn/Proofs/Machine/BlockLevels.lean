import Rpn.Proofs.Codegen.Namespace
import Rpn.Proofs.Machine.Ending
import Rpn.Proofs.Machine.Walks

/-! The levels of generated code.  Between two blocks the stack holds as many words as the depth
cell counts, and the number depends on nothing but the operations before. -/

namespace Rpn

namespace Operation

/-- The number of entries that an operation leaves in the place of its operands. -/
def resultCount : Operation → Nat
  | dup | swap => 2
  | _ => 1

def isBinary : Operation → Bool
  | plus | minus | multiply | divide | modulus | power => true
  | _ => false

def addsEntry : Operation → Bool
  | push _ | dup => true
  | _ => false

/-- The number of entries after an operation; none if it lacks an operand. -/
def depthAfter? (depth : Nat) (operation : Operation) : Option Nat :=
  if operation.operandCount ≤ depth then
    some (depth - operation.operandCount + operation.resultCount)
  else none

def depth? (operations : List Operation) : Option Nat :=
  operations.foldlM depthAfter? 0

theorem depthAfter?_add (operation : Operation) (depth : Nat) :
    depthAfter? (depth + operation.operandCount) operation =
      some (depth + operation.resultCount) := by
  rw [depthAfter?, if_pos (Nat.le_add_left ..), Nat.add_sub_cancel]

theorem counts_of_depthAfter? {operation : Operation} {depth after : Nat}
    (counted : depthAfter? depth operation = some after) :
    after + (if operation.isBinary then 1 else 0) =
        depth + (if operation.addsEntry then 1 else 0) ∧ 1 ≤ after := by
  unfold depthAfter? at counted
  split at counted
  · rename_i enough
    cases counted
    cases operation <;> simp_all [operandCount, resultCount, isBinary, addsEntry] <;> omega
  · cases counted

theorem depth?_append (earlier : List Operation) (operation : Operation) :
    depth? (earlier ++ [operation]) = (depth? earlier).bind (depthAfter? · operation) := by
  simp [depth?, List.foldlM_append]

/-- Only what pushes adds to the depth, and only what takes two operands and leaves one takes from
it. -/
theorem counts_of_depth? {operations : List Operation} {depth : Nat}
    (counted : depth? operations = some depth) :
    depth + operations.countP isBinary = operations.countP addsEntry ∧
      (operations ≠ [] → 1 ≤ depth) := by
  induction operations using List.reverseRecOn generalizing depth with
  | nil =>
      cases counted
      exact ⟨rfl, nofun⟩
  | append_singleton earlier operation induction =>
      rw [depth?_append, Option.bind_eq_some_iff] at counted
      obtain ⟨before, known, last⟩ := counted
      obtain ⟨change, positive⟩ := counts_of_depthAfter? last
      have balance := (induction known).1
      refine ⟨?_, fun _ => positive⟩
      rw [List.countP_append, List.countP_append, List.countP_singleton, List.countP_singleton]
      omega

theorem depth?_le_length {operations : List Operation} {depth : Nat}
    (counted : depth? operations = some depth) : depth ≤ operations.length := by
  have balance := (counts_of_depth? counted).1
  have most := List.countP_le_length (p := addsEntry) (l := operations)
  omega

end Operation

namespace Machine

open Assembly Codegen

variable {labels : Symbol → Level → Prop} {visit : Level → List Line → Prop} {rest : List Line}

/-! Blocks. -/

/-- The level between two blocks. -/
def boundary (depth : Nat) : Level :=
  ⟨depth, .words depth, 0, 0, .nothing⟩

/-- The level within a block that has taken operands from the stack and not from the depth. -/
def working (depth taken : Nat) : Level :=
  ⟨depth + taken, .words depth, 0, 0, .nothing⟩

section Entries

variable {level : Level} {count : Nat}

theorem after_compareDepth (small : level.depth < 2 ^ 64) (fits : count < 2 ^ 64) :
    level.after (.compareCell Cell.depth count) =
      some { level with evidence := .compared count } := by
  have shown : level.evidenceAfter (.compareCell Cell.depth count) = .compared count :=
    if_pos ⟨rfl, small, Int.natCast_nonneg count, by exact_mod_cast fits⟩
  have height : level.height.after (.compareCell Cell.depth count) = some level.height := by
    cases level.height <;> rfl
  simp [Level.after, Instr.written, Level.depthAfter, Level.floatsAfter, shown, height]

theorem through_requireEntries (small : level.depth < 2 ^ 64) (enough : count ≤ level.depth)
    (rest : List Instr) :
    Level.through (some level) (requireEntries count ++ rest) =
      Level.through (some { level with evidence := .compared count }) rest := by
  have few : ¬ level.depth < count := Nat.not_lt.mpr enough
  simp only [requireEntries, List.cons_append, List.nil_append, Level.through, Level.pass,
    after_compareDepth small (Nat.lt_of_le_of_lt enough small), Option.map_some, Level.branch, few]
  simp
  cases Level.through _ rest <;> rfl

theorem through_requireEntries_tooFew (small : level.depth < 2 ^ 64) (fits : count < 2 ^ 64)
    (few : level.depth < count) :
    Level.through (some level) (requireEntries count) =
      some (none, [(Handler.tooFew, { level with evidence := .compared count })]) := by
  simp [requireEntries, Level.through, Level.pass, after_compareDepth small fits, Level.branch, few]

end Entries

/-- A block without labels takes its operands and leaves its results. -/
theorem exists_through_code {index depth : Nat} {operation : Operation}
    (straight : localLabels index operation = [])
    (small : depth + operation.operandCount < 2 ^ 64) :
    ∃ instructions, code index operation = instrs instructions ∧
      ∃ jumps, Level.through (some (boundary (depth + operation.operandCount))) instructions =
          some (some (boundary (depth + operation.resultCount)), jumps) ∧
        jumps.all (Handler.all.contains ·.1) = true := by
  cases operation with
  | power | factorial => cases straight
  | push literal => exact ⟨_, rfl, _, rfl, rfl⟩
  | _ =>
      dsimp only [Operation.operandCount, Operation.resultCount] at small ⊢
      refine ⟨_, rfl, ?_⟩
      simp only [arithmetic, modulus, unary, tangent, duplicate, exchange, List.append_assoc]
      rw [through_requireEntries small (Nat.le_add_left ..)]
      exact ⟨_, rfl, rfl⟩

/-- Handlers are met at any level, and nothing is asked at a remark or a label, nor at an
instruction that has enough lines after it. -/
structure Free (labels : Symbol → Level → Prop) (visit : Level → List Line → Prop) (bound : Nat) :
    Prop where
  handlers : ∀ symbol ∈ Handler.all, ∀ level, labels symbol level
  remark : ∀ level text tail, visit level (.remark text :: tail)
  label : ∀ level name tail, visit level (.label name :: tail)
  instr : ∀ level instruction tail, bound ≤ tail.length → visit level (.instr instruction :: tail)

/-- The labels of a block are met with its operands taken. -/
def Own (labels : Symbol → Level → Prop) (index depth : Nat) (operation : Operation) : Prop :=
  ∀ symbol ∈ localLabels index operation, ∀ level,
    labels symbol level ↔ level = working depth operation.operandCount

section Code

variable {bound index depth : Nat} (free : Free labels visit bound) (far : bound ≤ rest.length)

include free far

theorem Free.walks_instrs {instructions : List Instr} {level? final : Option Level}
    {jumps : List (Symbol × Level)}
    (passed : Level.through level? instructions = some (final, jumps))
    (allowed : ∀ jump ∈ jumps, labels jump.1 jump.2) (later : Walks labels visit final rest) :
    Walks labels visit level? (instrs instructions ++ rest) := by
  refine .instrs passed allowed (fun level instruction before => ?_) later
  exact free.instr level instruction _ (far.trans (by simp))

theorem walks_straight {operation : Operation} (straight : localLabels index operation = [])
    (small : depth + operation.operandCount < 2 ^ 64)
    (later : Walks labels visit (some (boundary (depth + operation.resultCount))) rest) :
    Walks labels visit (some (boundary (depth + operation.operandCount)))
      (code index operation ++ rest) := by
  obtain ⟨instructions, written, jumps, passed, targets⟩ := exists_through_code straight small
  rw [written]
  refine free.walks_instrs far passed (fun jump member => free.handlers jump.1 ?_ jump.2) later
  simpa using List.all_eq_true.mp targets jump member

omit far in
theorem walks_label {operation : Operation} (own : Own labels index depth operation)
    {symbol : Symbol} (member : symbol ∈ localLabels index operation) {level? : Option Level}
    (arrives : level? = none ∨ level? = some (working depth operation.operandCount))
    (later : Walks labels visit (some (working depth operation.operandCount)) rest) :
    Walks labels visit level? (.label symbol :: rest) :=
  .only arrives (free.label ..) ((own symbol member _).mpr rfl) (fun _ => (own symbol member _).mp)
    later

theorem walks_rounds {operation : Operation} (own : Own labels index depth operation)
    {counter : Register} (known : counter = .rcx ∨ counter = .rdx) {loop store : Symbol}
    (loopMember : loop ∈ localLabels index operation)
    (storeMember : store ∈ localLabels index operation)
    (later : Walks labels visit (some (working depth operation.operandCount)) rest) :
    Walks labels visit (some (working depth operation.operandCount))
      (.label loop :: (instrs (loopBody counter loop) ++ .label store :: rest)) := by
  have passed : Level.through (some (working depth operation.operandCount))
      (loopBody counter loop) = some (some (working depth operation.operandCount),
        [(Handler.overflow, working depth operation.operandCount),
          (loop, working depth operation.operandCount)]) := by
    rcases known with rfl | rfl <;> rfl
  refine walks_label free own loopMember (.inr rfl) (free.walks_instrs (by simp; omega)
    passed ?_ (walks_label free own storeMember (.inr rfl) later))
  simp only [List.forall_mem_cons]
  exact ⟨free.handlers _ (by decide) _, (own loop loopMember _).mpr rfl,
    List.forall_mem_nil _⟩

theorem walks_powerLoop (own : Own labels index depth .power)
    (later : Walks labels visit (some (working depth 2)) rest) :
    Walks labels visit (some (working depth 2)) (powerLoop index rest) := by
  have compared : ∀ positive store, Level.through (some (working depth 2))
      [.compare .rdx 0, .jumpIf .greater positive, .xorHalf .eax .eax, .jump store] =
      some (none, [(positive, working depth 2), (store, working depth 2)]) := fun _ _ => rfl
  have counted : ∀ store, Level.through (some (working depth 2))
      [.move .rcx .rax, .decrement .rdx, .jumpIf .zero store] =
      some (some (working depth 2), [(store, working depth 2)]) := fun _ => rfl
  have positive := (own _ (.head _) _).mpr rfl
  have store := (own _ (.tail _ (.tail _ (.head _))) _).mpr rfl
  -- Both ways from the comparison are jumps, so the label after them is met from there only.
  refine free.walks_instrs (by simp; omega) (compared ..) ?_ (walks_label free own (.head _)
    (.inl rfl) (free.walks_instrs (by simp; omega) (counted _) ?_
      (walks_rounds free far own (.inr rfl) (.tail _ (.head _)) (.tail _ (.tail _ (.head _)))
        later)))
  · simp only [List.forall_mem_cons]
    exact ⟨positive, store, List.forall_mem_nil _⟩
  · simp only [List.forall_mem_cons]
    exact ⟨store, List.forall_mem_nil _⟩

theorem walks_power (own : Own labels index depth .power) (small : depth + 2 < 2 ^ 64)
    (later : Walks labels visit (some (boundary (depth + 1))) rest) :
    Walks labels visit (some (boundary (depth + 2))) (power index ++ rest) := by
  obtain ⟨first, second, entered⟩ : ∃ first second, Level.through (some (boundary (depth + 2)))
      (requireEntries 2 ++ popInto Cell.first ++ popInto Cell.second ++
        truncateInto .rdx Cell.first ++ truncateInto .rax Cell.second) =
      some (some (working depth 2), [(Handler.overflow, first), (Handler.overflow, second)]) := by
    simp only [List.append_assoc]
    rw [through_requireEntries small (Nat.le_add_left ..)]
    exact ⟨_, _, rfl⟩
  have overflow : ∀ level, labels Handler.overflow level := free.handlers _ (by decide)
  have ended : Walks labels visit (some (working depth 2))
      (instrs (pushInteger ++ [.decrementCell Cell.depth]) ++ rest) :=
    free.walks_instrs far rfl (List.forall_mem_nil _) later
  rw [instrs_append, List.append_assoc] at ended
  rw [power_append]
  refine free.walks_instrs (by simp [powerLoop]; omega) entered (by simp [overflow]) ?_
  exact walks_powerLoop free (far.trans (by simp; omega)) own ended

theorem walks_factorial (own : Own labels index depth .factorial) (small : depth + 1 < 2 ^ 64)
    (later : Walks labels visit (some (boundary (depth + 1))) rest) :
    Walks labels visit (some (boundary (depth + 1))) (factorial index ++ rest) := by
  obtain ⟨refused, entered⟩ : ∃ refused, Level.through (some (boundary (depth + 1)))
      (requireEntries 1 ++ popInto Cell.first ++ truncateInto .rcx Cell.first) =
      some (some (working depth 1), [(Handler.overflow, refused)]) := by
    simp only [List.append_assoc]
    rw [through_requireEntries small (Nat.le_add_left ..)]
    exact ⟨_, rfl⟩
  have compared : ∀ store, Level.through (some (working depth 1))
      [.xorHalf .eax .eax, .compare .rcx 0, .jumpIf .notGreater store, .moveHalf .eax 1] =
      some (some (working depth 1), [(store, working depth 1)]) := fun _ => rfl
  have overflow : ∀ level, labels Handler.overflow level := free.handlers _ (by decide)
  have store := (own _ (.tail _ (.head _)) _).mpr rfl
  rw [factorial_append, factorialLoop]
  refine free.walks_instrs (by simp; omega) entered (by simp [overflow]) ?_
  refine free.walks_instrs (by simp; omega) (compared _) ?_
    (walks_rounds free (far.trans (by simp)) own (.inl rfl) (.head _) (.tail _ (.head _))
      (free.walks_instrs far rfl (List.forall_mem_nil _) later))
  simp only [List.forall_mem_cons]
  exact ⟨store, List.forall_mem_nil _⟩

/-- The code of an operation that has its operands leads to the next block. -/
theorem walks_code {operation : Operation} (own : Own labels index depth operation)
    (small : depth + operation.operandCount < 2 ^ 64)
    (later : Walks labels visit (some (boundary (depth + operation.resultCount))) rest) :
    Walks labels visit (some (boundary (depth + operation.operandCount)))
      (code index operation ++ rest) := by
  cases operation with
  | power => exact walks_power free far own small later
  | factorial => exact walks_factorial free far own small later
  | _ => exact walks_straight free far rfl small later

/-- The code of an operation that lacks an operand leads to a handler. -/
theorem walks_code_tooFew {operation : Operation} (few : depth < operation.operandCount)
    (unused : ∀ symbol ∈ localLabels index operation, ∀ level, ¬ labels symbol level)
    (later : Walks labels visit none rest) :
    Walks labels visit (some (boundary depth)) (code index operation ++ rest) := by
  obtain ⟨body, begins⟩ := code_eq_requireEntries index (by omega : 0 < operation.operandCount)
  have most := operation.operandCount_le
  have small : (boundary depth).depth < 2 ^ 64 := by
    change depth < 2 ^ 64
    omega
  have inside : body <:+ block index operation :=
    ⟨.blank :: .remark (title operation) :: instrs (requireEntries operation.operandCount), by
      simp [block, begins]⟩
  rw [begins, List.append_assoc]
  refine free.walks_instrs (by simp; omega)
    (through_requireEntries_tooFew small (by omega) few) ?_ (.none_append ?_ later)
  · simpa using free.handlers _ (by decide) _
  · intro symbol member
    refine unused symbol ?_
    rw [← defined_block]
    exact (inside.sublist.filterMap _).mem member

end Code

/-! The footer. -/

/-- The end of a program that has a single entry left, and the handlers. -/
def printing : List Line :=
  instrs (popInto Cell.first ++
      [ .address .rdi Message.result, .loadVector Cell.first, .moveHalf .eax 1,
        .call (ascii "printf") ]) ++
    (epilogue ++ .blank :: (handlers ++ [.directive .plainStack]))

theorem footer_eq :
    footer =
      .blank :: .remark (ascii "[PRINT]") :: .instr (.compareCell Cell.depth 1) ::
        .instr (.jumpIf .above Handler.tooMany) :: .instr (.jumpIf .below Handler.tooFew) ::
          printing := rfl

theorem pass_address (level : Level) (symbol : Symbol) :
    level.pass (.instr (.address .rdi symbol)) =
      some (some { level with evidence := .nothing }, []) := by
  obtain ⟨depth, height, floats, refused, evidence⟩ := level
  cases height <;> rfl

/-- Walks along which nothing is asked. -/
abbrev Passes (labels : Symbol → Level → Prop) : Option Level → List Line → Prop :=
  Walks labels fun _ _ => True

section Footer

variable (handled : ∀ symbol ∈ Handler.all, ∀ level, labels symbol level)

theorem walks_report (level : Level) (later : Passes labels none rest) :
    Passes labels (some level) (report ++ rest) := by
  have passed : Level.through (some level) [ .alignStack (-16), .xorHalf .eax .eax,
      .call (ascii "printf"), .moveHalf .edi 1, .call (ascii "exit") ] = some (none, []) := by
    obtain ⟨depth, height, floats, refused, evidence⟩ := level
    cases height <;> rfl
  rw [report, List.append_assoc]
  exact .instrs passed (List.forall_mem_nil _) (fun _ _ _ => trivial) (.skip (by simp) later)

include handled

theorem walks_handler {name message : Symbol} (later : Passes labels none rest) :
    Passes labels none (handler name message ++ rest) := by
  refine .label nofun (.skip nofun (.skip nofun (.skip nofun later))) fun level _ => ?_
  refine .next trivial (pass_address level message) (.line trivial rfl ?_ (.skip nofun later))
  simpa using handled _ (by decide) _

/-- The handlers lead from any level to the report, and that to the exit. -/
theorem walks_handlers (later : Passes labels none rest) :
    Passes labels none (handlers ++ rest) := by
  have reported : ∀ level?, Passes labels level?
      (.label Handler.report :: (report ++ rest)) := by
    intro level?
    have walked := fun level => walks_report level later
    exact .label (fun level _ => ⟨trivial, handled _ (by decide) _⟩)
      (walked ⟨0, .aligned, 0, 0, .nothing⟩).forget fun level _ => walked level
  have fallen : Passes labels none
      ([.label Handler.tooFew, .instr (.address .rdi Message.tooFew), .blank] ++
        .label Handler.report :: (report ++ rest)) := by
    refine .label nofun (.skip nofun (.skip nofun (reported none))) fun level _ => ?_
    exact .next trivial (pass_address level _) (.next trivial rfl (reported _))
  rw [handlers_append]
  exact walks_handler handled (walks_handler handled (walks_handler handled fallen))

theorem walks_printing :
    Passes labels (some ⟨1, .words 1, 0, 0, .compared 1⟩) printing := by
  have ended : Passes labels none
      (.blank :: (handlers ++ [.directive .plainStack])) :=
    .skip nofun (walks_handlers handled (.skip nofun (.ending none)))
  exact .instrs rfl (List.forall_mem_nil _) (fun _ _ _ => trivial) (.leave trivial rfl ended)

end Footer

end Machine

end Rpn

import Rpn.Proofs.Machine.Levels

/-! Code that keeps to its levels.  A level is found for every line that control can get to, and
what is found is true of every run. -/

namespace Rpn.Machine

open Assembly Codegen

namespace Level

/-- What follows a line at a level: the level of the next line, if control can get there, and the
levels with which control goes elsewhere.  A function is called with an aligned stack. -/
def pass (level : Level) : Line → Option (Option Level × List (Symbol × Level))
  | .instr (.jump target) => some (none, [(target, level)])
  | .instr (.jumpIf condition target) =>
      some (level.branch condition false,
        ((level.branch condition true).map fun taken => (target, taken)).toList)
  | .instr (.call function) =>
      if level.height = .aligned ∨ level.height = .words 0 then
        some (if function = ascii "exit" then none else some { level with evidence := .nothing },
          [])
      else none
  | .instr .ret | .label _ => none
  | .instr instruction => (level.after instruction).map fun next => (some next, [])
  | .blank | .heading _ | .remark _ => some (some level, [])
  | .directive _ | .datum _ _ => some (none, [])

def through : Option Level → List Instr → Option (Option Level × List (Symbol × Level))
  | level?, [] => some (level?, [])
  | none, _ :: _ => some (none, [])
  | some level, instruction :: rest =>
      match level.pass (.instr instruction) with
      | none => none
      | some (next, jumps) =>
          match through next rest with
          | none => none
          | some (final, others) => some (final, jumps ++ others)

end Level

/-! Walks. -/

/-- The lines that take the frame pointer of the caller back and return to it. -/
def epilogue : List Line :=
  instrs [.pop .rbp, .xorHalf .eax .eax, .ret]

/-- Code can be walked through from a level, or from nowhere up to its first label.  Control gets to
a label with the levels that belong to it, and what is asked of a level before some lines holds. -/
inductive Walks (labels : Symbol → Level → Prop) (visit : Level → List Line → Prop) :
    Option Level → List Line → Prop
  | ending (level? : Option Level) : Walks labels visit level? []
  | skip {line : Line} {rest : List Line} (other : ∀ name, line ≠ .label name)
      (later : Walks labels visit none rest) : Walks labels visit none (line :: rest)
  | label {level? : Option Level} {name : Symbol} {rest : List Line}
      (arrives : ∀ level, level? = some level →
        visit level (.label name :: rest) ∧ labels name level)
      (unused : Walks labels visit none rest)
      (later : ∀ level, labels name level → Walks labels visit (some level) rest) :
      Walks labels visit level? (.label name :: rest)
  | line {level : Level} {line : Line} {rest : List Line} {next : Option Level}
      {jumps : List (Symbol × Level)} (visited : visit level (line :: rest))
      (passed : level.pass line = some (next, jumps))
      (allowed : ∀ jump ∈ jumps, labels jump.1 jump.2) (later : Walks labels visit next rest) :
      Walks labels visit (some level) (line :: rest)
  | leave {level : Level} {rest : List Line} (visited : visit level (epilogue ++ rest))
      (empty : level.height = .words 0) (later : Walks labels visit none rest) :
      Walks labels visit (some level) (epilogue ++ rest)

section Walks

variable {labels : Symbol → Level → Prop} {visit : Level → List Line → Prop}
  {level? : Option Level} {level : Level} {lines rest : List Line}

/-- Control goes from a line to the next one. -/
theorem Walks.next {line : Line} {next : Option Level} (visited : visit level (line :: rest))
    (passed : level.pass line = some (next, [])) (later : Walks labels visit next rest) :
    Walks labels visit (some level) (line :: rest) :=
  .line visited passed (List.forall_mem_nil _) later

theorem Walks.visited (walks : Walks labels visit (some level) lines) (nonempty : lines ≠ []) :
    visit level lines := by
  cases walks with
  | ending => exact absurd rfl nonempty
  | label arrives _ _ => exact (arrives level rfl).1
  | line visited _ _ _ => exact visited
  | leave visited _ _ => exact visited

/-- The code at a label can be walked through from the levels of the label. -/
theorem Walks.code {symbol : Symbol} {code : List Line} (walks : Walks labels visit level? lines)
    (found : codeAt? symbol lines = some code) (accepted : labels symbol level) :
    Walks labels visit (some level) code := by
  induction walks with
  | ending => cases found
  | @skip line rest other _ induction =>
      cases line with
      | label name => exact absurd rfl (other name)
      | _ => exact induction found
  | label _ _ later unused _ =>
      rw [codeAt?] at found
      split at found
      · rename_i same
        cases found
        exact later level (same ▸ accepted)
      · exact unused found
  | @line level line rest next jumps _ passed _ _ induction =>
      cases line with
      | label name => cases passed
      | _ => exact induction found
  | leave _ _ _ induction => exact induction found

theorem Walks.none_append {before : List Line}
    (unused : ∀ symbol ∈ defined before, ∀ level, ¬ labels symbol level)
    (later : Walks labels visit none rest) : Walks labels visit none (before ++ rest) := by
  induction before with
  | nil => exact later
  | cons line before induction =>
      have tail := induction fun symbol member =>
        unused symbol (((List.sublist_cons_self line before).filterMap _).mem member)
      cases line with
      | label name =>
          have never := unused name (mem_defined (List.mem_cons_self ..) rfl)
          exact .label nofun tail fun level accepted => absurd accepted (never level)
      | _ => exact .skip nofun tail

/-- What is asked along a walk may be anything that holds at the ends of its lines. -/
theorem Walks.asking {other : Level → List Line → Prop} (walks : Walks labels visit level? lines)
    (holds : ∀ level tail, tail <:+ lines → other level tail) :
    Walks labels other level? lines := by
  induction walks with
  | ending level? => exact .ending level?
  | @skip line rest plain _ induction =>
      refine .skip plain (induction ?_)
      exact fun level tail inside => holds level tail (inside.trans (List.suffix_cons line rest))
  | @label _ name rest arrives _ _ unused later =>
      have onwards : ∀ level tail, tail <:+ rest → other level tail := fun level tail inside =>
        holds level tail (inside.trans (List.suffix_cons _ rest))
      refine .label (fun level equal => ⟨holds level _ List.suffix_rfl, (arrives level equal).2⟩)
        (unused onwards) fun level known => later level known onwards
  | @line level line rest _ _ _ passed allowed _ induction =>
      refine .line (holds level _ List.suffix_rfl) passed allowed (induction ?_)
      exact fun level tail inside => holds level tail (inside.trans (List.suffix_cons line rest))
  | @leave level rest _ empty _ induction =>
      refine .leave (holds level _ List.suffix_rfl) empty (induction ?_)
      exact fun level tail inside => holds level tail (inside.trans (List.suffix_append _ rest))

/-- What can be walked through from a level can be walked through from nowhere. -/
theorem Walks.forget (walks : Walks labels visit level? lines) : Walks labels visit none lines := by
  induction walks with
  | ending => exact .ending none
  | skip other _ induction => exact .skip other induction
  | label _ unused later => exact .label nofun unused later
  | @line level line rest next jumps _ passed _ _ induction =>
      refine .skip (fun name equal => ?_) induction
      rw [equal] at passed
      cases passed
  | leave _ _ _ induction => exact .skip nofun (.skip nofun (.skip nofun induction))

/-- A label to which control gets at one level only. -/
theorem Walks.only {name : Symbol} (arrives : level? = none ∨ level? = some level)
    (asked : visit level (.label name :: rest)) (accepted : labels name level)
    (only : ∀ other, labels name other → other = level)
    (later : Walks labels visit (some level) rest) :
    Walks labels visit level? (.label name :: rest) := by
  refine .label (fun reached equal => ?_) later.forget fun other known => ?_
  · rcases arrives with rfl | rfl <;> cases equal
    exact ⟨asked, accepted⟩
  · rw [only other known]
    exact later

theorem Level.through_none (instructions : List Instr) :
    Level.through none instructions = some (none, []) := by
  cases instructions <;> rfl

theorem Walks.instrs {instructions : List Instr} {final : Option Level}
    {jumps : List (Symbol × Level)}
    (passed : Level.through level? instructions = some (final, jumps))
    (allowed : ∀ jump ∈ jumps, labels jump.1 jump.2)
    (asked : ∀ level instruction before,
      visit level (.instr instruction :: (Codegen.instrs before ++ rest)))
    (later : Walks labels visit final rest) :
    Walks labels visit level? (Codegen.instrs instructions ++ rest) := by
  induction instructions generalizing level? jumps with
  | nil =>
      cases passed
      exact later
  | cons instruction instructions induction =>
      cases level? with
      | none =>
          cases passed
          exact .skip nofun (induction (Level.through_none _) allowed)
      | some level =>
          rw [Level.through] at passed
          split at passed
          · cases passed
          · rename_i next first entered
            split at passed
            · cases passed
            · rename_i others continued
              cases passed
              rw [List.forall_mem_append] at allowed
              exact .line (asked level instruction instructions) entered allowed.1
                (induction continued allowed.2)

/-- Only the epilogue sets a register that the caller wants back. -/
theorem Walks.written {instruction : Instr}
    (walks : Walks labels visit (some level) (.instr instruction :: rest)) :
    (∀ register ∈ instruction.written, isCallerSaved register = true) ∨
      ∃ tail, .instr instruction :: rest = epilogue ++ tail := by
  generalize held : Line.instr instruction :: rest = lines at walks
  cases walks with
  | ending => cases held
  | label => cases held
  | line _ passed =>
      cases held
      refine .inl fun register member => ?_
      cases instruction with
      | jump _ | jumpIf _ _ | call _ | ret => cases member
      | _ =>
          obtain ⟨after, known, _⟩ := Option.map_eq_some_iff.mp passed
          unfold Level.after at known
          split at known
          · rename_i free
            exact List.all_eq_true.mp free register member
          · cases known
  | @leave _ tail => exact .inr ⟨tail, rfl⟩

/-- Functions are called where the height of the stack is known to be aligned. -/
theorem Walks.height_of_call {function : Symbol}
    (walks : Walks labels visit (some level) (.instr (.call function) :: rest)) :
    level.height = .aligned ∨ level.height = .words 0 := by
  cases walks with
  | line _ passed =>
      rw [Level.pass] at passed
      split at passed
      · assumption
      · cases passed

end Walks

/-! Runs. -/

/-- A program in its epilogue: the caller's frame pointer is back, and the return address is on top
of the stack. -/
structure Leaving (caller : Caller) (state : State unit) (rest : List Line) : Prop where
  pointer : state.stackPointer = caller.stackPointer
  target : state.memory caller.stackPointer = caller.target
  registers : caller.HasRegisters state
  lines : ∃ after, rest = epilogue.drop 1 ++ after ∨ rest = epilogue.drop 2 ++ after

structure Left (caller : Caller) (state : State unit) : Prop where
  pointer : state.stackPointer = caller.stackPointer + 8
  registers : caller.HasRegisters state

/-- A run that keeps to the levels of its code. -/
inductive Kept (caller : Caller) (labels : Symbol → Level → Prop)
    (visit : Level → List Line → Prop) : Position unit → Prop
  | inside {level : Level} {state : State unit} {rest : List Line}
      (agrees : Agrees caller level state) (walks : Walks labels visit (some level) rest) :
      Kept caller labels visit (.running state rest)
  | leaving {state : State unit} {rest : List Line} (leaving : Leaving caller state rest) :
      Kept caller labels visit (.running state rest)
  | returned {state : State unit} (left : Left caller state) :
      Kept caller labels visit (.returned state caller.target)
  | exited {level : Level} {state : State unit} (agrees : Agrees caller level state) :
      Kept caller labels visit (.exited state)

section Runs

variable {unit : FloatUnit} {platform : Platform} {file rest : List Line} {state next : State unit}
  {caller : Caller} {labels : Symbol → Level → Prop} {visit : Level → List Line → Prop}
  {level : Level}

theorem pass_of_effect {instruction : Instr}
    (done : effect platform state instruction = some next) :
    level.pass (.instr instruction) =
      (level.after instruction).map fun after => (some after, []) := by
  cases instruction with
  | jump _ | jumpIf _ _ | call _ | ret => cases done
  | _ => rfl

theorem agrees_afterCall (agrees : Agrees caller level state) (printed : List Printed) :
    Agrees caller { level with evidence := .nothing }
      { afterCall platform state with printed } := by
  have bound := agrees.height.le
  have above : ¬ caller.stackPointer < state.stackPointer := by
    unfold Caller.base at bound
    omega
  refine ⟨⟨(if_neg (Int.not_lt.mpr bound)).trans agrees.saved, (if_neg above).trans agrees.target,
    fun register saved => ?_⟩, agrees.height, agrees.depth, agrees.floats, trivial⟩
  exact (if_neg (by simp [saved])).trans (agrees.registers register saved)

/-- Control that goes to a label of the file finds code that can be walked through. -/
def Closed (file : List Line) (labels : Symbol → Level → Prop)
    (visit : Level → List Line → Prop) : Prop :=
  ∀ symbol level code, labels symbol level → codeAt? symbol file = some code →
    Walks labels visit (some level) code

theorem kept_line {line : Line} {after : Option Level} {jumps : List (Symbol × Level)}
    {position : Position unit} (closed : Closed file labels visit)
    (agrees : Agrees caller level state) (passed : level.pass line = some (after, jumps))
    (allowed : ∀ jump ∈ jumps, labels jump.1 jump.2) (later : Walks labels visit after rest)
    (taken : step platform file state (line :: rest) = some position) :
    Kept caller labels visit position := by
  cases line with
  | blank | heading _ | remark _ =>
      cases passed
      cases taken
      exact .inside agrees later
  | label _ => cases passed
  | directive _ | datum _ _ => cases taken
  | instr instruction =>
      cases instruction with
      | jump target =>
          cases passed
          obtain ⟨code, found, equal⟩ := Option.bind_eq_some_iff.mp taken
          cases equal
          exact .inside agrees (closed _ level code (allowed _ (List.mem_singleton_self _)) found)
      | jumpIf condition target =>
          cases passed
          obtain ⟨holds, tested, taken⟩ := Option.bind_eq_some_iff.mp taken
          obtain ⟨chosen, branched, agreesChosen⟩ := agrees_branch agrees tested
          cases holds with
          | true =>
              obtain ⟨code, found, equal⟩ := Option.bind_eq_some_iff.mp taken
              cases equal
              have accepted : labels target chosen := allowed (target, chosen) (by simp [branched])
              exact .inside agreesChosen (closed target chosen code accepted found)
          | false =>
              cases taken
              rw [branched] at later
              exact .inside agreesChosen later
      | call function =>
          rw [Level.pass] at passed
          split at passed
          · rw [step, call] at taken
            split at taken
            · cases taken
            · split at taken
              · rename_i isPrintf
                cases passed
                cases taken
                rw [isPrintf, if_neg (by decide)] at later
                exact .inside (agrees_afterCall agrees _) later
              · split at taken <;> cases taken
                exact .exited agrees
          · cases passed
      | ret => cases passed
      | _ =>
          simp only [step, bind, Option.bind_eq_some_iff] at taken
          obtain ⟨next, done, equal⟩ := taken
          cases equal
          rw [pass_of_effect done, Option.map_eq_some_iff] at passed
          obtain ⟨reached, known, equal⟩ := passed
          cases equal
          exact .inside (agrees_after agrees known done) later

/-- The epilogue takes the frame pointer back from where it was saved. -/
theorem kept_leave (agrees : Agrees caller level state) (empty : level.height = .words 0)
    {position : Position unit}
    (taken : step platform file state (epilogue ++ rest) = some position) :
    Kept caller labels visit position := by
  have height := agrees.height
  rw [empty] at height
  have top : state.stackPointer = caller.base := by
    change state.stackPointer + 8 * ((0 : Nat) : Int) = caller.base at height
    omega
  cases taken
  refine .leaving ⟨?_, agrees.target, fun register saved => ?_, rest, .inl rfl⟩
  · change state.stackPointer + 8 = caller.stackPointer
    rw [top, Caller.base, Int.sub_add_cancel]
  · change (if register = .rbp then state.memory state.stackPointer else _) = _
    split
    · rename_i isPointer
      rw [top, isPointer, agrees.saved]
    · exact agrees.registers register saved

/-- One line keeps a run to its levels. -/
theorem kept_step {position : Position unit} (closed : Closed file labels visit)
    (kept : Kept caller labels visit (.running state rest))
    (taken : step platform file state rest = some position) :
    Kept caller labels visit position := by
  cases kept with
  | inside agrees walks =>
      cases walks with
      | ending => cases taken
      | label arrives _ later =>
          cases taken
          exact .inside agrees (later _ (arrives _ rfl).2)
      | line _ passed allowed later => exact kept_line closed agrees passed allowed later taken
      | leave _ empty _ => exact kept_leave agrees empty taken
  | leaving leaving =>
      obtain ⟨pointer, target, registers, tail, rfl | rfl⟩ := leaving
      · cases taken
        refine .leaving ⟨pointer, target, fun register saved => ?_, tail, .inr rfl⟩
        refine Eq.trans (if_neg ?_) (registers register saved)
        rintro rfl
        cases saved
      · cases taken
        rw [pointer, target]
        exact .returned ⟨rfl, registers⟩

/-- A run that keeps to the levels of its code at some time does so from then on. -/
theorem kept_of_reaches {start position : Position unit} (closed : Closed file labels visit)
    (kept : Kept caller labels visit start) (reaches : Reaches platform file start position) :
    Kept caller labels visit position := by
  induction reaches with
  | refl => exact kept
  | line taken _ induction => exact induction (kept_step closed kept taken)

end Runs

end Rpn.Machine

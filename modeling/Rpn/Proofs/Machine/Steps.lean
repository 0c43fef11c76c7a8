import Rpn.Machine.Run
import Rpn.Proofs.Assembly.Symbols

/-! Runs of the machine, line by line. -/

namespace Rpn.Machine

open Assembly

variable {unit : FloatUnit} {platform : Platform} {file rest : List Line}

/-- A position leads to another one in some number of lines. -/
inductive Reaches (platform : Platform) (file : List Line) : Position unit → Position unit → Prop
  | refl (position : Position unit) : Reaches platform file position position
  | line {state : State unit} {rest : List Line} {next final : Position unit}
      (taken : step platform file state rest = some next)
      (later : Reaches platform file next final) :
      Reaches platform file (.running state rest) final

namespace Reaches

theorem trans {first second third : Position unit} (start : Reaches platform file first second)
    (later : Reaches platform file second third) : Reaches platform file first third := by
  induction start with
  | refl _ => exact later
  | line taken _ induction => exact .line taken (induction later)

end Reaches

/-- Where the program has ended. -/
def Position.IsFinal : Position unit → Prop
  | .running _ _ => False
  | .returned _ _ | .exited _ => True

/-- A run that reaches an end stops there, however many more lines it may take. -/
theorem exists_run {start final : Position unit} (reaches : Reaches platform file start final)
    (ended : final.IsFinal) :
    ∃ least, ∀ bound, least ≤ bound → run platform file bound start = some final := by
  induction reaches with
  | refl position =>
      refine ⟨0, fun bound _ => ?_⟩
      cases position with
      | running state rest => cases ended
      | returned state target => cases bound <;> rfl
      | exited state => cases bound <;> rfl
  | line taken _ induction =>
      obtain ⟨least, done⟩ := induction ended
      refine ⟨least + 1, fun bound enough => ?_⟩
      obtain ⟨more, rfl⟩ := Nat.exists_eq_add_of_le enough
      rw [Nat.add_right_comm, run, taken]
      exact done _ (Nat.le_add_right ..)

/-! Where the symbols of a file are. -/

theorem codeAt?_append {symbol : Symbol} {before : List Line} (rest : List Line)
    (missing : symbol ∉ defined before) :
    codeAt? symbol (before ++ rest) = codeAt? symbol rest := by
  induction before with
  | nil => rfl
  | cons line before induction =>
      have later : symbol ∉ defined before := fun member =>
        missing (((List.sublist_cons_self line before).filterMap _).mem member)
      cases line with
      | label name =>
          have different : name ≠ symbol := by
            rintro rfl
            exact missing (mem_defined (List.mem_cons_self ..) rfl)
          rw [List.cons_append, codeAt?, if_neg different]
          exact induction later
      | _ => exact induction later

theorem cells_append {symbol : Symbol} {before : List Line} (rest : List Line)
    (missing : symbol ∉ defined before) :
    cells unit symbol (before ++ rest) = cells unit symbol rest := by
  induction before with
  | nil => rfl
  | cons line before induction =>
      have later : symbol ∉ defined before := fun member =>
        missing (((List.sublist_cons_self line before).filterMap _).mem member)
      cases line with
      | datum name value =>
          have different : name ≠ symbol := by
            rintro rfl
            exact missing (mem_defined (List.mem_cons_self ..) rfl)
          rw [List.cons_append, cells, if_neg different]
          exact induction later
      | _ => exact induction later

/-- A label that is defined once is found where it stands. -/
theorem codeAt?_of_once {symbol : Symbol} {before rest : List Line}
    (once : (defined (before ++ .label symbol :: rest)).Nodup) :
    codeAt? symbol (before ++ .label symbol :: rest) = some rest := by
  rw [codeAt?_append _ (not_mem_defined_before once rfl), codeAt?, if_pos rfl]

theorem codeAt?_of_suffix {symbol : Symbol} (once : (defined file).Nodup)
    (placed : .label symbol :: rest <:+ file) : codeAt? symbol file = some rest := by
  obtain ⟨before, rfl⟩ := placed
  exact codeAt?_of_once once

/-- A cell that is defined once has the word of its line. -/
theorem cells_of_once {file : List Line} {symbol : Symbol} {value : Datum}
    (once : (defined file).Nodup) (member : .datum symbol value ∈ file) :
    cells unit symbol file = datumWord unit value := by
  obtain ⟨before, rest, rfl⟩ := List.append_of_mem member
  rw [cells_append _ (not_mem_defined_before once rfl), cells, if_pos rfl]

/-! Single lines. -/

namespace Reaches

variable {state next : State unit}

theorem single {position : Position unit} (taken : step platform file state rest = some position) :
    Reaches platform file (.running state rest) position :=
  .line taken (.refl position)

/-- Lines without code are passed over. -/
theorem label (symbol : Symbol) :
    Reaches platform file (.running state (.label symbol :: rest)) (.running state rest) :=
  single rfl

theorem instr {instruction : Instr} (done : effect platform state instruction = some next) :
    Reaches platform file (.running state (.instr instruction :: rest)) (.running next rest) := by
  refine single ?_
  cases instruction with
  | jump target => cases done
  | jumpIf condition target => cases done
  | call function => cases done
  | ret => cases done
  | breakpoint => cases done
  | _ => simp [step, done]

theorem jump {target : Symbol} {code : List Line} (found : codeAt? target file = some code) :
    Reaches platform file (.running state (.instr (.jump target) :: rest))
      (.running state code) := by
  refine single ?_
  rw [step, found]
  rfl

theorem jumpIf_true {condition : Condition} {target : Symbol} {code : List Line}
    (holds : state.flags.test condition = some true) (found : codeAt? target file = some code) :
    Reaches platform file (.running state (.instr (.jumpIf condition target) :: rest))
      (.running state code) := by
  refine single ?_
  rw [step, holds, found]
  rfl

theorem jumpIf_false {condition : Condition} {target : Symbol}
    (fails : state.flags.test condition = some false) :
    Reaches platform file (.running state (.instr (.jumpIf condition target) :: rest))
      (.running state rest) := by
  refine single ?_
  rw [step, fails]
  rfl

theorem ret {target : Word} (found : state.memory state.stackPointer = target) :
    Reaches platform file (.running state (.instr .ret :: rest))
      (.returned state.pop.2 target) := by
  refine single ?_
  rw [step, ← found]
  rfl

end Reaches

end Rpn.Machine

import Rpn.Proofs.Machine.Program

/-! How a program ends: it prints its value and returns, or it reports a failure and exits. -/

namespace Rpn.Machine

open Assembly Codegen Evaluation

variable {unit : FloatUnit} {platform : Platform} {file : List Line} {rest : List Line}

/-! Calls of system functions. -/

namespace Reaches

variable {state : State unit}

theorem printf (aligned : state.stackPointer % 16 = 0) :
    Reaches platform file (.running state (.instr (.call (ascii "printf")) :: rest))
      (.running
        { afterCall platform state with
          printed := state.printed ++
            [⟨state.registers .rdi, state.registers .rax, state.vector⟩] } rest) := by
  refine single ?_
  rw [step, call, if_neg (by simp [aligned]), if_pos rfl]

theorem exit (aligned : state.stackPointer % 16 = 0) :
    Reaches platform file (.running state (.instr (.call (ascii "exit")) :: rest))
      (.exited state) := by
  refine single ?_
  rw [step, call, if_neg (by simp [aligned]), if_neg (by decide), if_pos rfl]

end Reaches

/-! Failures. -/

def messageOf : Failure → Symbol
  | .tooFew => Message.tooFew
  | .zeroDivisor => Message.zeroDivisor
  | .overflow => Message.overflow
  | .tooMany => Message.tooMany

/-- A failed program prints the message of its failure and nothing else, and exits with status 1. -/
structure Exits (platform : Platform) (failure : Failure) (final : State unit) : Prop where
  printed : ∃ vector, final.printed = [⟨platform.address (messageOf failure), 0, vector⟩]
  status : final.registers .rdi = 1

/-- The end of every failure. -/
def report : List Line :=
  instrs [ .alignStack (-16), .xorHalf .eax .eax, .call (ascii "printf"), .moveHalf .edi 1,
    .call (ascii "exit") ] ++ [.blank]

theorem exists_exit (rest : List Line) {state : State unit} {failure : Failure} {code : List Line}
    (reaches : Reaches platform file (.running state code)
      (.running (state.set .rdi (platform.address (messageOf failure))) (report ++ rest)))
    (silent : state.printed = []) :
    ∃ final, Reaches platform file (.running state code) (.exited final) ∧
      Exits platform failure final := by
  have aligned : (state.stackPointer - state.stackPointer % 16) % 16 = 0 := by omega
  refine ⟨_, reaches.trans (.trans (.instr rfl) (.trans (.instr effect_clear)
    (.trans (.printf aligned) (.trans (.instr rfl) (.exit aligned))))), ⟨state.vector, ?_⟩, rfl⟩
  simp [State.set, State.setFlags, silent]

/-- The lines of the handlers from each of them on. -/
theorem handlers_append (rest : List Line) :
    handlers ++ rest =
      handler Handler.zeroDivisor Message.zeroDivisor ++
        (handler Handler.overflow Message.overflow ++
          (handler Handler.tooMany Message.tooMany ++
            ([.label Handler.tooFew, .instr (.address .rdi Message.tooFew), .blank] ++
              .label Handler.report :: (report ++ rest)))) := by
  simp only [handlers, report, List.append_assoc, List.cons_append, List.nil_append, instrs_cons,
    instrs_nil]

/-- The handler of a failure reports it. -/
theorem exists_handler (once : (defined file).Nodup) (placed : handlers ++ rest <:+ file)
    (failure : Failure) :
    ∃ code, codeAt? (handlerOf failure) file = some code ∧
      ∀ (unit : FloatUnit) (platform : Platform) (state : State unit), state.printed = [] →
        ∃ final, Reaches platform file (.running state code) (.exited final) ∧
          Exits platform failure final := by
  rw [handlers_append] at placed
  have atOverflow := (List.suffix_append _ _).trans placed
  have atTooMany := (List.suffix_append _ _).trans atOverflow
  have atTooFew := (List.suffix_append _ _).trans atTooMany
  have atReport := codeAt?_of_suffix once ((List.suffix_append _ _).trans atTooFew)
  cases failure with
  | tooFew =>
      refine ⟨_, codeAt?_of_suffix once atTooFew, fun unit platform state => exists_exit rest ?_⟩
      exact .trans (.instr rfl) (.trans (.single rfl) (.label Handler.report))
  | zeroDivisor =>
      refine ⟨_, codeAt?_of_suffix once placed, fun unit platform state => exists_exit rest ?_⟩
      exact .trans (.instr rfl) (.jump atReport)
  | overflow =>
      refine ⟨_, codeAt?_of_suffix once atOverflow, fun unit platform state => exists_exit rest ?_⟩
      exact .trans (.instr rfl) (.jump atReport)
  | tooMany =>
      refine ⟨_, codeAt?_of_suffix once atTooMany, fun unit platform state => exists_exit rest ?_⟩
      exact .trans (.instr rfl) (.jump atReport)

theorem handled_of_suffix (once : (defined file).Nodup) (placed : handlers ++ rest <:+ file) :
    Handled file := by
  intro failure
  obtain ⟨code, found, _⟩ := exists_handler once placed failure
  exact ⟨code, found⟩

/-! The result. -/

/-- A program that succeeds prints its value and nothing else, and returns 0 to its caller, whose
registers and stack are as before the call. -/
structure Returns (platform : Platform) (registers : Register → Word) (stackPointer : Int)
    (value : Word) (final : State unit) : Prop where
  printed : final.printed = [⟨platform.address Message.result, 1, value⟩]
  status : final.registers .rax = 0
  stackPointer : final.stackPointer = stackPointer + 8
  registers : ∀ register, isCallerSaved register = false →
    final.registers register = registers register

section Result

variable {frame : Frame} {state : State unit} {stack : List Word} {target : Word}

theorem effect_loadVector {cell : Symbol} {value : Word} (found : state.cells cell = some value) :
    effect platform state (.loadVector cell) = some { state with vector := value } := by
  simp [effect, found]

/-- The printing function keeps the stack and the registers that it must. -/
theorem exists_printed {value : Word} (aligned : state.stackPointer % 16 = 0)
    (silent : state.printed = []) (found : state.cells Cell.first = some value) :
    ∃ next,
      Reaches platform file
        (.running state (instrs [ .address .rdi Message.result, .loadVector Cell.first,
          .moveHalf .eax 1, .call (ascii "printf") ] ++ rest)) (.running next rest) ∧
      next.printed = [⟨platform.address Message.result, 1, value⟩] ∧
      next.stackPointer = state.stackPointer ∧
      (∀ place, state.stackPointer ≤ place → next.memory place = state.memory place) ∧
      ∀ register, isCallerSaved register = false →
        next.registers register = state.registers register := by
  refine ⟨_, .trans (.instr rfl) (.trans (.instr (effect_loadVector found)) (.trans (.instr rfl)
    (.printf aligned))), ?_, rfl, fun place above => if_neg (Int.not_lt.mpr above),
    fun register saved => ?_⟩
  · simp [State.set, full, halfWord, silent]
  · have notFormat : register ≠ .rdi := ne_of_isCallerSaved saved (by decide)
    have notCount : register ≠ .rax := ne_of_isCallerSaved saved (by decide)
    simp [afterCall, saved, State.set, full, notFormat, notCount]

theorem exists_return {registers : Register → Word}
    (stacked : Stacked state.memory state.stackPointer [registers .rbp, target])
    (kept : ∀ register, isCallerSaved register = false →
      state.registers register = registers register) :
    ∃ final,
      Reaches platform file
        (.running state (instrs [.pop .rbp, .xorHalf .eax .eax, .ret] ++ rest))
        (.returned final target) ∧
      final.printed = state.printed ∧ final.registers .rax = 0 ∧
      final.stackPointer = state.stackPointer + 16 ∧
      ∀ register, isCallerSaved register = false →
        final.registers register = registers register := by
  obtain ⟨savedAt, targetAt, _⟩ := stacked
  refine ⟨_, .trans (.instr rfl) (.trans (.instr effect_clear) (.ret targetAt)), rfl, rfl, ?_,
    fun register saved => ?_⟩
  · change state.stackPointer + 8 + 8 = _
    omega
  · have notStatus : register ≠ .rax := ne_of_isCallerSaved saved (by decide)
    by_cases pointer : register = .rbp
    · simp [State.pop, State.setFlags, State.set, pointer, savedAt]
    · simp [State.pop, State.setFlags, State.set, pointer, notStatus, kept register saved]

theorem leads_finish {stackPointer : Int} (handled : Handled file)
    (aligned : stackPointer % 16 = 8) (base : frame.base = stackPointer - 8)
    (bottom : frame.bottom = [frame.registers .rbp, target]) (ready : Ready frame state stack)
    (small : stack.length < 2 ^ 64) :
    Leads platform file (.running state (finish ++ rest)) (result stack)
      (fun value position => ∃ final, position = .returned final target ∧
        Returns platform frame.registers stackPointer value final) := by
  simp only [finish, List.append_assoc, List.cons_append]
  refine .of_reaches (.trans (.single rfl) (.single rfl)) ?_
  refine .compare ready (effect_compareCell 1 ready.depth) fun compared holds _ flags => ?_
  have above : compared.flags.test .above = some (decide (1 < stack.length)) := by
    rw [flags]
    exact test_above small (by decide)
  have below : compared.flags.test .below = some (decide (stack.length < 1)) := by
    rw [flags]
    exact test_below small (by decide)
  match stack with
  | [] =>
      obtain ⟨code, found⟩ := handled .tooFew
      exact .skip above (.fail .tooFew below found holds.printed)
  | [value] =>
      refine .skip above (.skip below ?_)
      refine .popInto holds (by decide) fun popped holdsPopped found _ => ?_
      have pointer : popped.stackPointer = frame.base := by simpa using holdsPopped.pointer
      obtain ⟨next, printing, printed, pointerNext, memory, kept⟩ :=
        exists_printed (by omega) holdsPopped.printed found
      have stacked : Stacked next.memory next.stackPointer [frame.registers .rbp, target] := by
        rw [pointerNext, ← bottom]
        exact holdsPopped.stacked.congr memory
      obtain ⟨final, returning, same, status, pointerFinal, registers⟩ :=
        exists_return stacked fun register saved =>
          (kept register saved).trans (holdsPopped.registers register saved)
      have before : final.stackPointer = stackPointer + 8 := by omega
      exact .done (printing.trans returning)
        ⟨final, rfl, same.trans printed, status, before, registers⟩
  | _ :: _ :: _ =>
      obtain ⟨code, found⟩ := handled .tooMany
      exact .fail .tooMany (above.trans (by simp)) found holds.printed

end Result

end Rpn.Machine

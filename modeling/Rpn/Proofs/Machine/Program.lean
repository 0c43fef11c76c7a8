import Rpn.Proofs.Compilation
import Rpn.Proofs.Machine.Loops

/-! The blocks of a program one after the other compute what its operations mean. -/

namespace Rpn

namespace Operation

open Evaluation

/-- The number of entries that an operation takes from the stack. -/
def operandCount : Operation → Nat
  | push _ => 0
  | factorial | abs | sin | cos | tan | sqrt | dup => 1
  | plus | minus | multiply | divide | modulus | power | swap => 2

theorem operandCount_le (operation : Operation) : operation.operandCount ≤ 2 := by
  cases operation <;> simp [operandCount]

/-- An operation that lacks an operand fails, whatever it computes. -/
theorem apply_of_length_lt_operandCount {unit : FloatUnit} {operation : Operation}
    {stack : List Word} (few : stack.length < operation.operandCount) :
    operation.apply unit stack = .error .tooFew := by
  match stack with
  | [] =>
      cases operation with
      | push literal => exact absurd few (Nat.not_lt_zero _)
      | _ => rfl
  | [top] => cases operation <;> simp_all [operandCount, apply]
  | top :: second :: rest =>
      have most := operation.operandCount_le
      simp only [List.length_cons] at few
      omega

theorem length_of_apply {unit : FloatUnit} {operation : Operation} {stack after : List Word}
    (applied : operation.apply unit stack = .ok after) : after.length ≤ stack.length + 1 := by
  revert applied
  fun_cases Operation.apply unit operation stack with
  | case7 top second rest =>
      intro applied
      obtain ⟨divisor, _, applied⟩ := Except.bind_eq_ok applied
      obtain ⟨dividend, _, applied⟩ := Except.bind_eq_ok applied
      split at applied
      · cases applied
      · obtain ⟨remainder, _, applied⟩ := Except.bind_eq_ok applied
        cases applied
        simp only [List.length_cons]
        omega
  | case8 top second rest =>
      intro applied
      obtain ⟨exponent, _, applied⟩ := Except.bind_eq_ok applied
      obtain ⟨base, _, applied⟩ := Except.bind_eq_ok applied
      obtain ⟨power, _, applied⟩ := Except.bind_eq_ok applied
      cases applied
      simp only [List.length_cons]
      omega
  | case9 top rest =>
      intro applied
      obtain ⟨value, _, applied⟩ := Except.bind_eq_ok applied
      obtain ⟨product, _, applied⟩ := Except.bind_eq_ok applied
      cases applied
      simp
  | _ =>
      intro applied
      cases applied <;> simp only [List.length_cons] <;> omega

end Operation

namespace Machine

open Assembly Codegen Evaluation

variable {unit : FloatUnit} {platform : Platform} {file : List Line} {frame : Frame}
  {state : State unit} {stack : List Word} {rest : List Line}

/-- An operation with operands looks for them before it does anything else. -/
theorem code_eq_requireEntries (index : Nat) {operation : Operation}
    (takes : 0 < operation.operandCount) :
    ∃ body, code index operation = instrs (requireEntries operation.operandCount) ++ body := by
  cases operation with
  | push literal => exact absurd takes (Nat.lt_irrefl 0)
  | _ => exact ⟨_, rfl⟩

theorem leads_tooFew (index : Nat) {operation : Operation} (handled : Handled file)
    (ready : Ready frame state stack) (few : stack.length < operation.operandCount) :
    Leads platform file (.running state (code index operation ++ rest))
      (operation.apply unit stack) (Continues frame rest) := by
  obtain ⟨body, begins⟩ := code_eq_requireEntries index (by omega : 0 < operation.operandCount)
  obtain ⟨handler, found⟩ := handled .tooFew
  have most := operation.operandCount_le
  rw [begins, List.append_assoc, Operation.apply_of_length_lt_operandCount few]
  exact .requireEntries_tooFew ready (by omega) few found

theorem exists_two_of_length {stack : List Word} (enough : 2 ≤ stack.length) :
    ∃ top second below, stack = top :: second :: below := by
  match stack, enough with
  | top :: second :: below, _ => exact ⟨top, second, below, rfl⟩

theorem leads_code {index : Nat} {operation : Operation} (handled : Handled file)
    (once : (defined file).Nodup) (placed : code index operation ++ rest <:+ file)
    (known : ∀ literal, operation = .push literal → literal ∈ frame.literals)
    (ready : Ready frame state stack) (small : stack.length < 2 ^ 64) :
    Leads platform file (.running state (code index operation ++ rest))
      (operation.apply unit stack) (Continues frame rest) := by
  by_cases few : stack.length < operation.operandCount
  · exact leads_tooFew index handled ready few
  have enough := Nat.le_of_not_lt few
  cases operation with
  | push literal => exact leads_push ready (known literal rfl)
  | plus =>
      obtain ⟨top, second, below, rfl⟩ := exists_two_of_length enough
      exact leads_arithmetic .add ready small
  | minus =>
      obtain ⟨top, second, below, rfl⟩ := exists_two_of_length enough
      exact leads_arithmetic .subtract ready small
  | multiply =>
      obtain ⟨top, second, below, rfl⟩ := exists_two_of_length enough
      exact leads_arithmetic .multiply ready small
  | divide =>
      obtain ⟨top, second, below, rfl⟩ := exists_two_of_length enough
      exact leads_divide handled ready small
  | modulus =>
      obtain ⟨top, second, below, rfl⟩ := exists_two_of_length enough
      exact leads_modulus handled ready small
  | power =>
      obtain ⟨top, second, below, rfl⟩ := exists_two_of_length enough
      exact leads_power handled once placed ready small
  | factorial =>
      obtain ⟨top, below, rfl⟩ := List.exists_cons_of_length_pos enough
      exact leads_factorial handled once placed ready small
  | abs =>
      obtain ⟨top, below, rfl⟩ := List.exists_cons_of_length_pos enough
      exact leads_unary ready small rfl
  | sin =>
      obtain ⟨top, below, rfl⟩ := List.exists_cons_of_length_pos enough
      exact leads_trigonometric .sine handled ready small rfl
  | cos =>
      obtain ⟨top, below, rfl⟩ := List.exists_cons_of_length_pos enough
      exact leads_trigonometric .cosine handled ready small rfl
  | tan =>
      obtain ⟨top, below, rfl⟩ := List.exists_cons_of_length_pos enough
      exact leads_tangent handled ready small
  | sqrt =>
      obtain ⟨top, below, rfl⟩ := List.exists_cons_of_length_pos enough
      exact leads_unary ready small rfl
  | dup =>
      obtain ⟨top, below, rfl⟩ := List.exists_cons_of_length_pos enough
      exact leads_duplicate ready small
  | swap =>
      obtain ⟨top, second, below, rfl⟩ := exists_two_of_length enough
      exact leads_exchange ready small

/-- The blocks from some index on compute the rest of the program.  No operation adds more than one
entry, so the depth never reaches a word's end. -/
theorem leads_blocks {index : Nat} {operations : List Operation} (handled : Handled file)
    (once : (defined file).Nodup) (placed : blocksFrom index operations ++ rest <:+ file)
    (known : ∀ literal, .push literal ∈ operations → literal ∈ frame.literals)
    (ready : Ready frame state stack) (small : stack.length + operations.length < 2 ^ 64) :
    Leads platform file (.running state (blocksFrom index operations ++ rest))
      (Evaluation.stack unit operations stack)
      (fun after position => Continues frame rest after position ∧ after.length < 2 ^ 64) := by
  induction operations generalizing index state stack with
  | nil => exact .done (.refl _) ⟨⟨state, rfl, ready⟩, small⟩
  | cons operation operations induction =>
      rw [blocksFrom, List.append_assoc] at placed ⊢
      rw [List.length_cons] at small
      have later := (List.suffix_append _ _).trans placed
      have coded := ((List.suffix_cons _ _).trans (List.suffix_cons _ _)).trans placed
      rw [Evaluation.stack, List.foldlM_cons]
      refine .of_reaches (.trans (.single rfl) (.single rfl)) ?_
      refine .bind (leads_code handled once coded (fun literal equal => ?_) ready (by omega))
        fun after applied position continues => ?_
      · exact known literal (equal ▸ List.mem_cons_self ..)
      obtain ⟨next, rfl, readyNext⟩ := continues
      have grown := Operation.length_of_apply applied
      refine induction later (fun literal member => ?_) readyNext (by omega)
      exact known literal (List.mem_cons_of_mem _ member)

end Machine

end Rpn

import Rpn.Proofs.Token.Separation

/-! A scanner that is asked for one token after the other gives the tokens of the whole text and
then the end token for ever.  Every token but the end token moves it on. -/

namespace Rpn

namespace Scanner

open Token

/-- The scanner after some questions. -/
def after (scanner : Scanner) : Nat → Scanner
  | 0 => scanner
  | count + 1 => scanner.next.2.after count

theorem after_succ (scanner : Scanner) (count : Nat) :
    scanner.after (count + 1) = (scanner.after count).next.2 := by
  induction count generalizing scanner with
  | zero => rfl
  | succ count induction => exact induction scanner.next.2

theorem take_succ (scanner : Scanner) (count : Nat) :
    scanner.take (count + 1) = scanner.take count ++ [(scanner.after count).next.1] := by
  induction count generalizing scanner with
  | zero => rfl
  | succ count induction => exact congrArg _ (induction scanner.next.2)

/-- A question uses up all that is left and is answered by the end token, or it uses up something
and is answered by another token. -/
theorem next_cases (scanner : Scanner) :
    scanner.next =
        (⟨.endOfInput, [], scanner.offset + scanner.rest.length + 1⟩,
          ⟨scanner.offset + scanner.rest.length, []⟩) ∨
      ∃ used rest, scanner.rest = used ++ rest ∧ used ≠ [] ∧
        scanner.next.1.kind ≠ .endOfInput ∧
        scanner.next.2 = ⟨scanner.offset + used.length, rest⟩ := by
  obtain ⟨offset, text⟩ := scanner
  obtain ⟨pieces, tail, splits⟩ := Splits.existence text
  cases splits with
  | done blank => exact .inl (next_of_gap blank offset)
  | @piece gap lexeme rest _ shape _ blank fits _ =>
      have more := Piece.kind_token_ne_endOfInput ⟨gap, shape, lexeme⟩ fits
        (offset + gap.length + 1)
      rw [next_of_fits blank fits]
      refine .inr ⟨gap ++ lexeme, rest, by simp, ?_, more, by simp [Nat.add_assoc]⟩
      exact List.append_ne_nil_of_right_ne_nil _ (Shape.ne_nil_of_fits fits)

/-- A scanner that stands somewhere in a text. -/
structure Within (text : Bytes) (scanner : Scanner) : Prop where
  offset_le : scanner.offset ≤ text.length
  rest_eq : scanner.rest = text.drop scanner.offset

namespace Within

theorem moves {text : Bytes} {scanner : Scanner} (within : Within text scanner) {used rest : Bytes}
    (split : scanner.rest = used ++ rest) :
    Within text ⟨scanner.offset + used.length, rest⟩ := by
  have remains : text.drop scanner.offset = used ++ rest := within.rest_eq ▸ split
  refine ⟨?_, ?_⟩
  · have length := congrArg List.length remains
    have inside := within.offset_le
    simp only [List.length_drop, List.length_append] at length ⊢
    omega
  · rw [← List.drop_drop, remains, List.drop_left]

theorem next {text : Bytes} {scanner : Scanner} (within : Within text scanner) :
    Within text scanner.next.2 := by
  rcases scanner.next_cases with ended | ⟨used, rest, split, _, _, moved⟩
  · rw [ended]
    exact within.moves (List.append_nil _).symm
  · rw [moved]
    exact within.moves split

theorem after {text : Bytes} {scanner : Scanner} (within : Within text scanner) (count : Nat) :
    Within text (scanner.after count) := by
  induction count with
  | zero => exact within
  | succ count induction =>
      rw [after_succ]
      exact induction.next

end Within

theorem within_ofInput (text : Bytes) : Within text (ofInput text) :=
  ⟨Nat.zero_le _, rfl⟩

/-- A token that is not the end token moves the scanner on. -/
theorem offset_lt_offset_next {scanner : Scanner} (more : scanner.next.1.kind ≠ .endOfInput) :
    scanner.offset < scanner.next.2.offset := by
  rcases scanner.next_cases with ended | ⟨used, rest, _, nonempty, _, moved⟩
  · simp [ended] at more
  · rw [moved]
    exact Nat.lt_add_of_pos_right (List.length_pos_iff.mpr nonempty)

/-! Tokens one by one. -/

theorem take_nil (offset count : Nat) :
    (Scanner.mk offset []).take count = List.replicate count ⟨.endOfInput, [], offset + 1⟩ := by
  induction count with
  | zero => rfl
  | succ count induction => exact congrArg _ induction

theorem take_of_splits {text tail : Bytes} {pieces : List Piece} (splits : Splits text pieces tail)
    (offset count : Nat) :
    (Scanner.mk offset text).take count =
      (Scanner.mk offset text).drain.take count ++
        List.replicate (count - (Scanner.mk offset text).drain.length)
          ⟨.endOfInput, [], offset + text.length + 1⟩ := by
  induction splits generalizing offset count with
  | done blank =>
      cases count with
      | zero => simp [take]
      | succ count => simp [take, drain, next_of_gap blank, take_nil]
  | @piece gap lexeme rest tail shape pieces blank fits others induction =>
      cases count with
      | zero => simp [take]
      | succ count =>
          have more := Piece.kind_token_ne_endOfInput ⟨gap, shape, lexeme⟩ fits
            (offset + gap.length + 1)
          rw [take, drain, next_of_fits blank fits, if_neg more, induction]
          simp [Nat.add_assoc]

end Scanner

namespace Token

/-! Tokens of a whole text. -/

theorem Splits.length_le {text tail : Bytes} {pieces : List Piece}
    (splits : Splits text pieces tail) : pieces.length ≤ text.length := by
  induction splits with
  | done _ => simp
  | piece _ fits _ induction =>
      have positive := List.length_pos_iff.mpr (Shape.ne_nil_of_fits fits)
      simp only [List.length_cons, List.length_append]
      omega

theorem Piece.length_tokensFrom (offset : Nat) (pieces : List Piece) :
    (tokensFrom offset pieces).length = pieces.length := by
  induction pieces generalizing offset with
  | nil => rfl
  | cons piece pieces induction => simp [tokensFrom, induction]

theorem Splits.pairwise_column {text tail : Bytes} {pieces : List Piece}
    (splits : Splits text pieces tail) (offset : Nat) :
    List.Pairwise (fun earlier later : Token => earlier.column < later.column)
      (Piece.tokensFrom offset pieces ++ [⟨.endOfInput, [], offset + text.length + 1⟩]) := by
  induction splits generalizing offset with
  | done _ => simp [Piece.tokensFrom]
  | @piece gap lexeme rest tail shape pieces _ fits _ induction =>
      have positive := List.length_pos_iff.mpr (Shape.ne_nil_of_fits fits)
      have ending : offset + (gap ++ (lexeme ++ rest)).length + 1 =
          offset + gap.length + lexeme.length + rest.length + 1 := by
        simp only [List.length_append]
        omega
      rw [ending, Piece.tokensFrom, List.cons_append, List.pairwise_cons]
      refine ⟨fun later member => ?_, induction _⟩
      have behind : offset + gap.length + lexeme.length < later.column := by
        rcases List.mem_append.mp member with member | member
        · exact Piece.lt_column_of_mem_tokensFrom member
        · rw [List.mem_singleton.mp member]
          exact Nat.lt_succ_of_le (Nat.le_add_right _ _)
      rw [Piece.column_token]
      exact Nat.lt_of_le_of_lt (Nat.add_le_add_left positive _) behind

/-- Questions one by one are answered by the tokens of the whole text and then by the end token.
They stay in the text and move on, so that a text has not many more tokens than bytes. -/
theorem asking_follows_scan (text : Bytes) (count : Nat) :
    (Scanner.ofInput text).take count =
      (scan text).take count ++
        List.replicate (count - (scan text).length) ⟨.endOfInput, [], text.length + 1⟩ ∧
    (Scanner.ofInput text).take (count + 1) =
      (Scanner.ofInput text).take count ++ [((Scanner.ofInput text).after count).next.1] ∧
    ((Scanner.ofInput text).after count).Within text ∧
    (((Scanner.ofInput text).after count).next.1.kind ≠ .endOfInput →
      ((Scanner.ofInput text).after count).offset <
          ((Scanner.ofInput text).after (count + 1)).offset ∧
        ((Scanner.ofInput text).after (count + 1)).offset ≤ text.length) ∧
    (scan text).length ≤ text.length + 1 ∧
    (∃ tokens, scan text = tokens ++ [⟨.endOfInput, [], text.length + 1⟩] ∧
      ∀ token ∈ tokens, token.kind ≠ .endOfInput) ∧
    (scan text).Pairwise fun earlier later => earlier.column < later.column := by
  obtain ⟨pieces, tail, splits⟩ := Splits.existence text
  have scanned : scan text =
      Piece.tokensFrom 0 pieces ++ [⟨.endOfInput, [], text.length + 1⟩] := by
    rw [scan, Scanner.ofInput, Scanner.drain_of_splits splits, Nat.zero_add]
  have columns := splits.pairwise_column 0
  have asked := Scanner.take_of_splits splits 0 count
  have within := Scanner.within_ofInput text
  rw [Nat.zero_add] at columns asked
  refine ⟨asked, Scanner.take_succ _ _, within.after count, fun more => ⟨?_, ?_⟩, ?_,
    ⟨_, scanned, splits.kind_ne_endOfInput 0⟩, scanned ▸ columns⟩
  · rw [Scanner.after_succ]
    exact Scanner.offset_lt_offset_next more
  · exact (within.after (count + 1)).offset_le
  · rw [scanned, List.length_append, Piece.length_tokensFrom]
    exact Nat.succ_le_succ splits.length_le

/-- Bytes of no known class, a sign without digits and a NUL byte are used up like any others, and
questions after the end change nothing. -/
theorem asking_follows_scan_odd_bytes :
    (Scanner.ofInput [0, 255, 45, 32]).take 4 =
      scan [0, 255, 45, 32] ++ List.replicate 2 ⟨.endOfInput, [], 5⟩ ∧
    (Scanner.ofInput [0, 255, 45, 32]).offset <
      ((Scanner.ofInput [0, 255, 45, 32]).after 1).offset := by
  have length : (scan [0, 255, 45, 32]).length = 2 := by decide +kernel
  have more : (Scanner.ofInput [0, 255, 45, 32]).next.1.kind ≠ .endOfInput := by decide +kernel
  obtain ⟨answers, _⟩ := asking_follows_scan [0, 255, 45, 32] 4
  obtain ⟨_, _, _, progress, _⟩ := asking_follows_scan [0, 255, 45, 32] 0
  rw [List.take_of_length_le (by omega), length] at answers
  exact ⟨answers, (progress more).1⟩

end Token

end Rpn

import Rpn.Proofs.Token.Split

/-! A blank separates the lexemes before it from all that follows it: the text before a blank is
scanned as if nothing came after. -/

namespace Rpn.Token

theorem startsWithDigit_append_blank {blank : UInt8} (separates : isBlank blank = true)
    (rest other : Bytes) : startsWithDigit (rest ++ blank :: other) = startsWithDigit rest := by
  cases rest with
  | cons byte tail => rfl
  | nil =>
      cases digit : isDigit blank with
      | false => exact digit
      | true => exact absurd separates (by simp [isBlank_eq_false_of_isDigit digit])

/-- What follows the next blank has no part in a lexeme. -/
theorem Shape.fits_append_blank {shape : Shape} {lexeme rest : Bytes} {blank : UInt8}
    (separates : isBlank blank = true) (fits : shape.Fits lexeme rest) (other : Bytes) :
    shape.Fits lexeme (rest ++ blank :: other) := by
  cases shape with
  | operator kind => exact fits
  | minus => exact ⟨fits.1, (startsWithDigit_append_blank separates rest other).trans fits.2⟩
  | number =>
      obtain ⟨stops, number⟩ := fits
      refine ⟨(startsWithDigit_append_blank separates rest other).trans stops,
        number.imp id fun ⟨integer, plain⟩ => ⟨integer, fun tail equal => ?_⟩⟩
      -- A fraction would begin with a dot, which is no blank.
      cases rest with
      | nil =>
          rw [(List.cons.inj equal).1] at separates
          exact absurd separates (by decide)
      | cons byte after =>
          obtain ⟨rfl, same⟩ := List.cons.inj equal
          rw [← same]
          exact (startsWithDigit_append_blank separates after other).trans (plain after rfl)
  | word =>
      obtain ⟨word, ending⟩ := fits
      refine ⟨word, fun byte tail equal => ?_⟩
      cases rest with
      | nil =>
          rw [← (List.cons.inj equal).1]
          exact .inr separates
      | cons first after =>
          rw [← (List.cons.inj equal).1]
          exact ending first after rfl

@[simp] theorem Piece.column_token (piece : Piece) (column : Nat) :
    (piece.token column).column = column := by
  unfold token
  split <;> rfl

theorem Piece.lt_column_of_mem_tokensFrom {offset : Nat} {pieces : List Piece} {token : Token}
    (member : token ∈ tokensFrom offset pieces) : offset < token.column := by
  induction pieces generalizing offset with
  | nil => cases member
  | cons piece pieces induction =>
      rcases List.mem_cons.mp member with rfl | member
      · rw [column_token]
        omega
      · have later := induction member
        omega

theorem Splits.kind_ne_endOfInput {text tail : Bytes} {pieces : List Piece}
    (splits : Splits text pieces tail) (offset : Nat) :
    ∀ token ∈ Piece.tokensFrom offset pieces, token.kind ≠ .endOfInput := by
  induction splits generalizing offset with
  | done _ => simp [Piece.tokensFrom]
  | @piece gap lexeme rest tail shape pieces _ fits _ induction =>
      intro token member
      rcases List.mem_cons.mp member with rfl | member
      · exact Piece.kind_token_ne_endOfInput ⟨gap, shape, lexeme⟩ fits _
      · exact induction _ token member

end Rpn.Token

namespace Rpn.Scanner

open Token

theorem skipBlanks_append {gap : Bytes} (blank : IsGap gap) (rest : Bytes) (offset : Nat) :
    (Scanner.mk offset (gap ++ rest)).skipBlanks =
      (Scanner.mk (offset + gap.length) rest).skipBlanks := by
  simp [skipBlanks, advance, List.takeWhile_append_of_pos blank, List.drop_append, Nat.add_assoc]

theorem next_append {gap : Bytes} (blank : IsGap gap) (rest : Bytes) (offset : Nat) :
    (Scanner.mk offset (gap ++ rest)).next = (Scanner.mk (offset + gap.length) rest).next := by
  simp only [next, skipBlanks_append blank]

theorem drain_eq_of_next_eq {scanner other : Scanner} (same : scanner.next = other.next) :
    scanner.drain = other.drain := by
  rw [drain.eq_def scanner, drain.eq_def other, same]

/-- The tokens before a blank are those of the text before it. -/
theorem drain_append_blank {head tail : Bytes} {pieces : List Piece}
    (splits : Splits head pieces tail) {blank : UInt8} (separates : isBlank blank = true)
    (rest : Bytes) (offset : Nat) :
    (Scanner.mk offset (head ++ blank :: rest)).drain =
      Piece.tokensFrom offset pieces ++
        (Scanner.mk (offset + head.length) (blank :: rest)).drain := by
  induction splits generalizing offset with
  | done gap => exact drain_eq_of_next_eq (next_append gap _ _)
  | @piece gap lexeme after tail shape pieces gapBlank fits others induction =>
      have fitsBefore := Shape.fits_append_blank separates fits rest
      have more := Piece.kind_token_ne_endOfInput ⟨gap, shape, lexeme⟩ fitsBefore
        (offset + gap.length + 1)
      rw [List.append_assoc, List.append_assoc, drain, next_of_fits gapBlank fitsBefore,
        if_neg more, induction]
      simp [Piece.tokensFrom, Nat.add_assoc]

end Rpn.Scanner

namespace Rpn.Token

theorem dropLast_scan_of_splits {text tail : Bytes} {pieces : List Piece}
    (splits : Splits text pieces tail) :
    (scan text).dropLast = Piece.tokensFrom 0 pieces := by
  rw [scan, Scanner.ofInput, Scanner.drain_of_splits splits, List.dropLast_concat]

/-- The tokens of a text with a blank in it: those before the blank do not depend on what follows,
and the others begin behind it. -/
theorem exists_dropLast_scan_append_blank {blank : UInt8} (separates : isBlank blank = true)
    (head rest : Bytes) :
    ∃ later, (scan (head ++ blank :: rest)).dropLast = (scan head).dropLast ++ later ∧
      ∀ token ∈ later, head.length < token.column := by
  obtain ⟨pieces, tail, splits⟩ := Splits.existence head
  obtain ⟨others, after, splitsLater⟩ := Splits.existence (blank :: rest)
  refine ⟨Piece.tokensFrom head.length others, ?_, fun _ => Piece.lt_column_of_mem_tokensFrom⟩
  rw [dropLast_scan_of_splits splits, scan, Scanner.ofInput,
    Scanner.drain_append_blank splits separates, Nat.zero_add,
    Scanner.drain_of_splits splitsLater, ← List.append_assoc, List.dropLast_concat]

end Rpn.Token

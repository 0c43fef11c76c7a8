import Rpn.Proofs.Token.Separation

/-! Scanning composes at blanks: a text with blanks in it has the tokens of its two parts, and those
of the second part have moved. -/

namespace Rpn

namespace Bytes

/-- A text with more added to the number at its end. -/
def addToNumeral (text : Bytes) (count : Nat) : Bytes :=
  (text.reverse.dropWhile isDigit).reverse ++
    ofNat (valueOf (text.reverse.takeWhile isDigit).reverse + count)

theorem addToNumeral_append {byte : UInt8} (noDigit : isDigit byte = false) (text : Bytes)
    (number count : Nat) :
    addToNumeral (text ++ byte :: ofNat number) count = text ++ byte :: ofNat (number + count) := by
  have backwards : (text ++ byte :: ofNat number).reverse =
      (ofNat number).reverse ++ byte :: text.reverse := by simp
  have inside : ∀ digit ∈ (ofNat number).reverse, isDigit digit = true := fun digit member =>
    isDigit_of_mem_ofNat (List.mem_reverse.mp member)
  have stops : ∀ first tail, byte :: text.reverse = first :: tail → isDigit first = false := by
    rintro first tail ⟨rfl, rfl⟩
    exact noDigit
  simp [addToNumeral, backwards, Token.takeWhile_run inside stops, Token.dropWhile_run inside stops]

end Bytes

namespace Token

/-- A token further to the right.  The literal of an invalid token ends with its column. -/
def moved (count : Nat) (token : Token) : Token where
  kind := token.kind
  literal := if token.kind = .invalid then token.literal.addToNumeral count else token.literal
  column := token.column + count

theorem Piece.token_add {piece : Piece} {rest : Bytes}
    (fits : piece.shape.Fits piece.lexeme rest) (column count : Nat) :
    piece.token (column + count) = moved count (piece.token column) := by
  have described := kind_token_eq_invalid_iff piece fits column
  unfold token at described ⊢
  cases found : piece.shape.kind? piece.lexeme with
  | some kind =>
      have valid : kind ≠ .invalid := by simpa [found] using described
      simp [moved, valid]
  | none =>
      have words : ascii "' at column " = ascii "' at column" ++ [Ascii.space] := by decide +kernel
      have noDigit : isDigit Ascii.space = false := by decide
      have added := Bytes.addToNumeral_append noDigit
        (ascii "Unknown token '" ++ piece.lexeme ++ ascii "' at column") column count
      simp only [List.append_assoc] at added
      simp [moved, words, added]

theorem Splits.tokensFrom_add {text tail : Bytes} {pieces : List Piece}
    (splits : Splits text pieces tail) (offset count : Nat) :
    Piece.tokensFrom (offset + count) pieces =
      (Piece.tokensFrom offset pieces).map (moved count) := by
  induction splits generalizing offset with
  | done _ => rfl
  | @piece gap lexeme rest tail shape pieces _ fits _ induction =>
      have first := @Piece.token_add ⟨gap, shape, lexeme⟩ _ fits (offset + gap.length + 1) count
      simp only [Piece.tokensFrom, List.map_cons, ← first, ← induction]
      congr 2 <;> omega

/-- The tokens of a text from an offset on are those of the text alone, moved by the offset. -/
theorem drain_eq_map_moved (text : Bytes) (offset : Nat) :
    (Scanner.mk offset text).drain = (scan text).map (moved offset) := by
  obtain ⟨pieces, tail, splits⟩ := Splits.existence text
  have tokens := splits.tokensFrom_add 0 offset
  have ending : moved offset ⟨.endOfInput, [], 0 + text.length + 1⟩ =
      ⟨.endOfInput, [], offset + text.length + 1⟩ := by
    simp only [moved, reduceCtorEq, if_false, Token.mk.injEq, true_and]
    omega
  rw [Nat.zero_add] at tokens
  rw [scan, Scanner.ofInput, Scanner.drain_of_splits splits, Scanner.drain_of_splits splits,
    List.map_append, List.map_singleton, tokens, ending]

/-- Blanks separate: the tokens before them are those of the text before, the others those of the
text behind with its offset added to every column. -/
theorem scan_composes_at_blanks (head gap tail : Bytes) (blank : IsGap gap)
    (separates : gap ≠ []) :
    ∃ tokens, scan head = tokens ++ [⟨.endOfInput, [], head.length + 1⟩] ∧
      (∀ token ∈ tokens, token.kind ≠ .endOfInput) ∧
      scan (head ++ gap ++ tail) =
        tokens ++ (scan tail).map (moved (head.length + gap.length)) := by
  obtain ⟨pieces, rest, splits⟩ := Splits.existence head
  refine ⟨Piece.tokensFrom 0 pieces, ?_, splits.kind_ne_endOfInput 0, ?_⟩
  · rw [scan, Scanner.ofInput, Scanner.drain_of_splits splits, Nat.zero_add]
  · obtain ⟨first, others, rfl⟩ := List.exists_cons_of_ne_nil separates
    have before := Scanner.drain_append_blank splits (blank first (by simp)) (others ++ tail) 0
    have behind := Scanner.drain_eq_of_next_eq (Scanner.next_append blank tail (0 + head.length))
    rw [List.cons_append] at behind
    rw [scan, Scanner.ofInput, List.append_assoc, List.cons_append, before, behind, Nat.zero_add,
      drain_eq_map_moved]

/-- A point at the end of the first text does not become part of a number, and the column in the
literal of the unknown word moves from a single digit to two. -/
theorem scan_composes_at_blanks_point :
    IsGap (ascii " \t\r\n ") ∧
    scan (ascii "-12." ++ ascii " \t\r\n " ++ ascii "5x") =
      [⟨.number, ascii "-12", 1⟩, ⟨.invalid, ascii "Unknown token '.' at column 4", 4⟩,
        ⟨.number, ascii "5", 10⟩, ⟨.invalid, ascii "Unknown token 'x' at column 11", 11⟩,
        ⟨.endOfInput, [], 12⟩] := by
  have blank : IsGap (ascii " \t\r\n ") := by decide +kernel
  obtain ⟨tokens, front, _, whole⟩ :=
    scan_composes_at_blanks (ascii "-12.") (ascii " \t\r\n ") (ascii "5x") blank (by decide)
  have tokensEq : tokens = (scan (ascii "-12.")).dropLast := by rw [front, List.dropLast_concat]
  refine ⟨blank, ?_⟩
  rw [whole, tokensEq]
  decide +kernel

end Token

end Rpn

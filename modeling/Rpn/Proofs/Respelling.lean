import Rpn.Proofs.Compilation

/-! Writing an expression anew.  The literals of its tokens, with blanks between them, are an
expression that is compiled to the same text. -/

namespace Rpn

open Token

/-- A text that may be written for a token: its literal, or for a factorial either spelling. -/
def Respells (token : Token) (text : Bytes) : Prop :=
  text = token.literal ∨ token.kind = .factorial ∧ text ∈ [ascii "!", ascii "factorial"]

theorem Respells.spells {token : Token} {text : Bytes} (respells : Respells token text)
    (spells : Spells token.kind token.literal) : Spells token.kind text := by
  rcases respells with rfl | ⟨factorial, spelling⟩
  · exact spells
  · rw [factorial]
    exact spells_factorial spelling

/-- A token and what is written for it are the same instruction. -/
theorem Respells.ofToken_eq_ok {token other : Token} {instruction : Instruction}
    (respells : Respells token other.literal) (kind : other.kind = token.kind)
    (made : Instruction.ofToken token = .ok instruction) :
    Instruction.ofToken other = .ok instruction := by
  unfold Instruction.ofToken at made ⊢
  rw [kind]
  rcases respells with same | ⟨factorial, _⟩
  · rw [same]
    split at made
    · rwa [if_pos ‹_›]
    · rw [if_neg ‹_›]
      cases found : token.kind.opcode? with
      | some opcode => rwa [found] at made
      | none =>
          rw [found] at made
          cases made
  · rwa [factorial] at made ⊢

theorem mapM_ofToken_of_respells {tokens others : List Token} {instructions : List Instruction}
    (respelled : List.Forall₂ Respells tokens (others.map Token.literal))
    (kinds : others.map Token.kind = tokens.map Token.kind)
    (built : tokens.mapM Instruction.ofToken = .ok instructions) :
    others.mapM Instruction.ofToken = .ok instructions := by
  rw [List.forall₂_map_right_iff] at respelled
  induction respelled generalizing instructions with
  | nil => exact built
  | @cons token other tokens others respells _ induction =>
      obtain ⟨kind, kindsLater⟩ := List.cons.inj kinds
      rw [List.mapM_cons] at built ⊢
      obtain ⟨instruction, made, building⟩ := Except.bind_eq_ok built
      obtain ⟨later, builtLater, final⟩ := Except.bind_eq_ok building
      rw [respells.ofToken_eq_ok kind made, induction kindsLater builtLater]
      exact final

/-- An expression can be written anew with any blanks: what is read and compiled is the same.  A
named constant is written with its decimals. -/
theorem respelled_expression_compiles_alike {expression : Bytes} {tokens : List Token}
    (accepted : Expression.read expression = .ok tokens) {texts : List Bytes}
    {leading body trailing : Bytes} (respelled : List.Forall₂ Respells tokens texts)
    (spaced : Spaced texts body) (before : IsGap leading) (after : IsGap trailing) :
    (∃ others, Expression.read (leading ++ (body ++ trailing)) = .ok others ∧
      others.map Token.kind = tokens.map Token.kind ∧ others.map Token.literal = texts) ∧
    (∃ pieces tail, Splits expression pieces tail ∧
      tokens.map Token.literal = (pieces.map Piece.lexeme).map Expression.typed) ∧
    ∀ debug, ∃ first second, compile debug expression = .ok first ∧
      compile debug (leading ++ (body ++ trailing)) = .ok second ∧
      second.assembly = first.assembly ∧ second.program = first.program := by
  obtain ⟨pieces, tail, splits, literals, ordered, spelled⟩ :=
    Expression.exists_splits_of_read accepted
  have spells : List.Forall₂ Spells (tokens.map Token.kind) texts := by
    rw [List.forall₂_map_left_iff]
    exact ((List.forall₂_and_left _ _).mpr ⟨spelled, respelled⟩).imp fun token text both =>
      both.2.spells both.1.1
  have resolved : ∀ kind ∈ tokens.map Token.kind, Expression.constant? kind = none := by
    intro kind member
    obtain ⟨token, tokenMember, rfl⟩ := List.mem_map.mp member
    exact (spelled token tokenMember).2
  obtain ⟨others, read, kinds, rfl⟩ := Expression.exists_read_of_spaced spaced spells before after
    ((Ordered.map_iff _ _).mpr ordered) resolved
  refine ⟨⟨others, read, kinds, rfl⟩, ⟨pieces, tail, splits, literals⟩, fun debug => ?_⟩
  obtain ⟨instructions, operations, built, checked⟩ := exists_parts_of_read accepted
  have rebuilt := mapM_ofToken_of_respells respelled kinds built
  exact ⟨_, _, compile_of_parts accepted built checked debug,
    compile_of_parts read rebuilt checked debug, rfl, rfl⟩

theorem respelled_expression_compiles_alike_constants :
    ∃ first second, compile true (ascii "pi 2*e -!") = .ok first ∧
      compile true (ascii "\t3.141593 2 *\n2.718282  - factorial ") = .ok second ∧
      second.assembly = first.assembly := by
  have accepted : Expression.read (ascii "pi 2*e -!") =
      .ok [⟨.number, ascii "3.141593", 1⟩, ⟨.number, ascii "2", 4⟩, ⟨.times, ascii "*", 5⟩,
        ⟨.number, ascii "2.718282", 6⟩, ⟨.minus, ascii "-", 8⟩, ⟨.factorial, ascii "!", 9⟩] := by
    decide +kernel
  have spaced : Spaced (["3.141593", "2", "*", "2.718282", "-", "factorial"].map ascii)
      (ascii "3.141593 2 *\n2.718282  - factorial") := by
    have space : IsGap (ascii " ") := by decide
    have line : IsGap (ascii "\n") := by decide
    have wide : IsGap (ascii "  ") := by decide
    exact .cons space (by decide) <| .cons space (by decide) <| .cons line (by decide) <|
      .cons wide (by decide) <| .cons space (by decide) <| .single _
  have respelled : List.Forall₂ Respells
      [⟨.number, ascii "3.141593", 1⟩, ⟨.number, ascii "2", 4⟩, ⟨.times, ascii "*", 5⟩,
        ⟨.number, ascii "2.718282", 6⟩, ⟨.minus, ascii "-", 8⟩, ⟨.factorial, ascii "!", 9⟩]
      (["3.141593", "2", "*", "2.718282", "-", "factorial"].map ascii) :=
    .cons (.inl rfl) <| .cons (.inl rfl) <| .cons (.inl rfl) <| .cons (.inl rfl) <|
      .cons (.inl rfl) <| .cons (.inr ⟨rfl, by decide⟩) .nil
  have before : IsGap (ascii "\t") := by decide
  have after : IsGap (ascii " ") := by decide
  obtain ⟨first, second, compiled, recompiled, same, _⟩ :=
    (respelled_expression_compiles_alike accepted respelled spaced before after).2.2 true
  exact ⟨first, second, compiled, recompiled, same⟩

end Rpn

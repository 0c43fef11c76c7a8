import Rpn.Expression
import Rpn.Proofs.Token.Split

/-! Which splits of a text are read as an expression. -/

namespace Rpn

/-- A list that begins with a value, and does not end with another one. -/
def Ordered {α : Type} (IsValue : α → Prop) (items : List α) : Prop :=
  (∃ first, items.head? = some first ∧ IsValue first) ∧
    (items.length = 1 ∨ ∃ last, items.getLast? = some last ∧ ¬ IsValue last)

theorem Ordered.map_iff {α β : Type} {IsValue : β → Prop} (image : α → β) (items : List α) :
    Ordered IsValue (items.map image) ↔ Ordered (fun item => IsValue (image item)) items := by
  cases items with
  | nil => simp [Ordered]
  | cons first rest =>
      have last := List.getLast?_eq_some_getLast (List.cons_ne_nil first rest)
      simp only [Ordered, List.getLast?_map, last, List.head?_map, List.head?_cons,
        Option.map_some, Option.some.injEq, exists_eq_left', List.length_map]

/-- Only the order of values and others counts. -/
theorem Ordered.iff_of_map_eq {α β : Type} {IsValue : α → Prop} {IsOther : β → Prop}
    {items : List α} {others : List β} (same : items.map IsValue = others.map IsOther) :
    Ordered IsValue items ↔ Ordered IsOther others := by
  have left : Ordered (fun value => value) (items.map IsValue) ↔ Ordered IsValue items :=
    Ordered.map_iff IsValue items
  have right : Ordered (fun value => value) (others.map IsOther) ↔ Ordered IsOther others :=
    Ordered.map_iff IsOther others
  rw [← left, ← right, same]

namespace Expression

open Token

/-- Tokens are collected up to the first one that is invalid. -/
theorem collect_of_splits {text tail : Bytes} {pieces : List Piece}
    (splits : Splits text pieces tail) (offset : Nat) :
    collect ⟨offset, text⟩ =
      match (Piece.tokensFrom offset pieces).find? (·.kind == .invalid) with
      | some token => .error (.unknownWord token.literal)
      | none => .ok ((Piece.tokensFrom offset pieces).map resolve) := by
  induction splits generalizing offset with
  | done blank =>
      rw [collect, Scanner.next_of_gap blank]
      rfl
  | @piece gap lexeme rest tail shape pieces blank fits others induction =>
      have more := Piece.kind_token_ne_endOfInput ⟨gap, shape, lexeme⟩ fits
        (offset + gap.length + 1)
      rw [collect, Scanner.next_of_fits blank fits, if_neg more, induction]
      simp only [Piece.tokensFrom, List.find?_cons]
      split
      · next invalid => simp [invalid]
      · next valid =>
          rw [beq_eq_false_iff_ne.mpr valid]
          cases (Piece.tokensFrom (offset + gap.length + lexeme.length) pieces).find?
            (·.kind == .invalid) with
          | none => rfl
          | some token => rfl

/-- The rules on the first and the last token. -/
theorem validate_eq_ok_iff {tokens result : List Token} :
    validate tokens = .ok result ↔
      result = tokens ∧ Ordered (fun token => token.kind = .number) tokens := by
  cases tokens with
  | nil => simp [validate, Ordered]
  | cons first others =>
      simp only [validate, Ordered, List.head?_cons, List.getLast?_cons]
      by_cases number : first.kind = .number
      · cases found : others.getLast? with
        | none =>
            have none : others = [] := List.getLast?_eq_none_iff.mp found
            simp [number, none, eq_comm]
        | some last =>
            have some : others ≠ [] := by
              rintro rfl
              simp at found
            by_cases trailing : last.kind = .number
            · simp [number, trailing, some]
            · simp [number, trailing]
              exact eq_comm
      · simp [number]

/-- What stands for a number: a number or the name of one. -/
def IsValue (lexeme : Bytes) : Prop :=
  IsNumber lexeme ∨ lexeme = ascii "e" ∨ lexeme = ascii "pi"

theorem kind_resolve_eq_number_iff (token : Token) :
    (resolve token).kind = .number ↔ token.kind ∈ [.number, .e, .pi] := by
  obtain ⟨kind, literal, column⟩ := token
  cases kind <;> simp [resolve, constant?]

/-- The token of a lexeme is resolved to a number if the lexeme stands for one. -/
theorem kind_resolve_token_iff (piece : Piece) {rest : Bytes}
    (fits : piece.shape.Fits piece.lexeme rest) (column : Nat) :
    (resolve (piece.token column)).kind = .number ↔ IsValue piece.lexeme := by
  obtain ⟨gap, shape, lexeme⟩ := piece
  unfold IsValue
  rw [Shape.isNumber_iff_of_fits fits, kind_resolve_eq_number_iff]
  cases shape with
  | operator kind =>
      have all : ∀ entry ∈ operators,
          entry.2 ∉ [.number, .e, .pi] ∧ entry.1 ≠ ascii "e" ∧ entry.1 ≠ ascii "pi" := by
        decide
      obtain ⟨other, noNames⟩ := all (lexeme, kind) fits
      simpa [noNames, Piece.token, Shape.kind?] using other
  | minus =>
      obtain ⟨rfl, _⟩ := fits
      have noNames : [Ascii.minus] ≠ ascii "e" ∧ [Ascii.minus] ≠ ascii "pi" := by decide
      simp [noNames, Piece.token, Shape.kind?]
  | number => simp [Piece.token, Shape.kind?]
  | word =>
      simp only [Piece.token, Shape.kind?, reduceCtorEq, false_or]
      cases found : Kind.keywords.lookup lexeme with
      | none =>
          have missing := List.lookup_eq_none_iff.mp found
          have noNames : lexeme ≠ ascii "e" ∧ lexeme ≠ ascii "pi" :=
            ⟨by simpa using missing (ascii "e", .e) (by decide),
              by simpa using missing (ascii "pi", .pi) (by decide)⟩
          simp [noNames]
      | some kind =>
          have all : ∀ entry ∈ Kind.keywords, entry.2 ∈ [.number, .e, .pi] ↔
              entry.1 = ascii "e" ∨ entry.1 = ascii "pi" := by
            decide
          obtain ⟨before, after, equal, _⟩ := List.lookup_eq_some_iff.mp found
          exact all (lexeme, kind) (by simp [equal])

theorem map_kind_resolve_tokensFrom {text tail : Bytes} {pieces : List Piece}
    (splits : Splits text pieces tail) (offset : Nat) :
    (Piece.tokensFrom offset pieces).map (fun token => (resolve token).kind = .number) =
      pieces.map (fun piece => IsValue piece.lexeme) := by
  induction splits generalizing offset with
  | done _ => rfl
  | @piece gap lexeme rest tail shape pieces _ fits _ induction =>
      simp only [Piece.tokensFrom, List.map_cons, induction]
      rw [kind_resolve_token_iff ⟨gap, shape, lexeme⟩ fits]

theorem forall_valid_tokensFrom_iff {text tail : Bytes} {pieces : List Piece}
    (splits : Splits text pieces tail) (offset : Nat) :
    (∀ token ∈ Piece.tokensFrom offset pieces, token.kind ≠ .invalid) ↔
      ∀ piece ∈ pieces, piece.shape.kind? piece.lexeme ≠ none := by
  induction splits generalizing offset with
  | done _ => simp [Piece.tokensFrom]
  | @piece gap lexeme rest tail shape pieces _ fits _ induction =>
      simp only [Piece.tokensFrom, List.forall_mem_cons, induction]
      rw [ne_eq, Piece.kind_token_eq_invalid_iff ⟨gap, shape, lexeme⟩ fits]

/-- A text is an expression if all its lexemes are known, the first one is a value, and the last
one is no other value. -/
theorem exists_read_eq_ok_iff {text tail : Bytes} {pieces : List Piece}
    (splits : Splits text pieces tail) :
    (∃ tokens, read text = .ok tokens) ↔
      (∀ piece ∈ pieces, piece.shape.kind? piece.lexeme ≠ none) ∧
        Ordered IsValue (pieces.map Piece.lexeme) := by
  have values : Ordered (fun token => token.kind = .number)
        ((Piece.tokensFrom 0 pieces).map resolve) ↔
      Ordered IsValue (pieces.map Piece.lexeme) := by
    rw [Ordered.map_iff, Ordered.map_iff]
    exact Ordered.iff_of_map_eq (map_kind_resolve_tokensFrom splits 0)
  rw [← forall_valid_tokensFrom_iff splits 0, ← values]
  unfold read Scanner.ofInput
  rw [collect_of_splits splits]
  cases found : (Piece.tokensFrom 0 pieces).find? (·.kind == .invalid) with
  | some token =>
      have member := List.mem_of_find?_eq_some found
      have invalid : token.kind = .invalid := by simpa using List.find?_some found
      constructor
      · rintro ⟨tokens, impossible⟩
        cases impossible
      · rintro ⟨valid, _⟩
        exact absurd invalid (valid token member)
  | none =>
      have valid : ∀ token ∈ Piece.tokensFrom 0 pieces, token.kind ≠ .invalid := by
        simpa using List.find?_eq_none.mp found
      constructor
      · rintro ⟨tokens, accepted⟩
        exact ⟨valid, (validate_eq_ok_iff.mp accepted).2⟩
      · rintro ⟨_, ordered⟩
        exact ⟨_, validate_eq_ok_iff.mpr ⟨rfl, ordered⟩⟩

/-! The literals of numbers. -/

theorem isNumber_of_kind_eq_number {shape : Shape} {lexeme rest : Bytes}
    (fits : shape.Fits lexeme rest) (found : shape.kind? lexeme = some .number) :
    IsNumber lexeme := by
  cases shape with
  | operator kind =>
      have all : ∀ entry ∈ operators, entry.2 ≠ .number := by decide
      exact absurd (Option.some.inj found) (all (lexeme, kind) fits)
  | minus => cases found
  | number => exact Shape.isNumber_of_fits fits
  | word =>
      have all : ∀ entry ∈ Kind.keywords, entry.2 ≠ .number := by decide
      obtain ⟨before, after, equal, _⟩ := List.lookup_eq_some_iff.mp found
      exact absurd rfl (all (lexeme, .number) (by simp [equal]))

theorem isNumber_constant {kind : Kind} {literal : Bytes} (found : constant? kind = some literal) :
    IsNumber literal := by
  cases kind <;> cases found
  · exact .inr ⟨ascii "2", ascii "718282", ⟨ascii "2", by decide, .inl rfl⟩, by decide, rfl⟩
  · exact .inr ⟨ascii "3", ascii "141593", ⟨ascii "3", by decide, .inl rfl⟩, by decide, rfl⟩

theorem isNumber_literal_resolve (piece : Piece) {rest : Bytes}
    (fits : piece.shape.Fits piece.lexeme rest) {column : Nat}
    (number : (resolve (piece.token column)).kind = .number) :
    IsNumber (resolve (piece.token column)).literal := by
  unfold resolve at number ⊢
  cases named : constant? (piece.token column).kind with
  | some literal => exact isNumber_constant named
  | none =>
      simp only [named] at number ⊢
      unfold Piece.token at number ⊢
      cases found : piece.shape.kind? piece.lexeme with
      | none => simp [found] at number
      | some kind =>
          simp only [found] at number
          exact isNumber_of_kind_eq_number fits (number ▸ found)

theorem isNumber_literal_resolve_tokensFrom {text tail : Bytes} {pieces : List Piece}
    (splits : Splits text pieces tail) (offset : Nat) :
    ∀ token ∈ Piece.tokensFrom offset pieces,
      (resolve token).kind = .number → IsNumber (resolve token).literal := by
  induction splits generalizing offset with
  | done _ => simp [Piece.tokensFrom]
  | @piece gap lexeme rest tail shape pieces _ fits _ induction =>
      intro token member number
      rcases List.mem_cons.mp member with rfl | member
      · exact isNumber_literal_resolve ⟨gap, shape, lexeme⟩ fits number
      · exact induction _ token member number

/-- The literal of every number that is read is written as one. -/
theorem isNumber_literal_of_read {text : Bytes} {tokens : List Token}
    (accepted : read text = .ok tokens) :
    ∀ token ∈ tokens, token.kind = .number → IsNumber token.literal := by
  obtain ⟨pieces, tail, splits⟩ := Splits.existence text
  unfold read Scanner.ofInput at accepted
  rw [collect_of_splits splits] at accepted
  cases found : (Piece.tokensFrom 0 pieces).find? (·.kind == .invalid) with
  | some token =>
      rw [found] at accepted
      cases accepted
  | none =>
      rw [found] at accepted
      obtain ⟨rfl, _⟩ := validate_eq_ok_iff.mp accepted
      intro token member number
      obtain ⟨source, sourceMember, rfl⟩ := List.mem_map.mp member
      exact isNumber_literal_resolve_tokensFrom splits 0 source sourceMember number

end Expression

end Rpn

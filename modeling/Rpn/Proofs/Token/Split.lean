import Rpn.Proofs.Token.Shape
import Rpn.Token.Scanner

/-! Every text is split into lexemes and the blanks between them in exactly one way, and scanning
it gives one token for each lexeme. -/

namespace Rpn.Token

/-- A possibly empty run of blanks. -/
def IsGap (text : Bytes) : Prop :=
  ∀ byte ∈ text, isBlank byte = true

instance (text : Bytes) : Decidable (IsGap text) :=
  List.decidableBAll _ _

/-- A lexeme with the blanks before it. -/
structure Piece where
  gap : Bytes
  shape : Shape
  lexeme : Bytes
  deriving DecidableEq, Repr

/-- A text is some pieces and the blanks after them.  Every lexeme has its shape in front of all
that follows it. -/
inductive Splits : Bytes → List Piece → Bytes → Prop
  | done {tail : Bytes} (blank : IsGap tail) : Splits tail [] tail
  | piece {gap lexeme rest tail : Bytes} {shape : Shape} {pieces : List Piece}
      (blank : IsGap gap) (fits : shape.Fits lexeme rest) (others : Splits rest pieces tail) :
      Splits (gap ++ (lexeme ++ rest)) (⟨gap, shape, lexeme⟩ :: pieces) tail

namespace Piece

/-- The token of a lexeme at a column.  A lexeme without a kind is described in the literal. -/
def token (piece : Piece) (column : Nat) : Token :=
  match piece.shape.kind? piece.lexeme with
  | some kind => ⟨kind, piece.lexeme, column⟩
  | none =>
      ⟨.invalid, ascii "Unknown token '" ++ piece.lexeme ++ ascii "' at column " ++
        Bytes.ofNat column, column⟩

/-- The tokens of pieces that begin at an offset.  Columns count from one. -/
def tokensFrom (offset : Nat) : List Piece → List Token
  | [] => []
  | piece :: rest =>
      piece.token (offset + piece.gap.length + 1) ::
        tokensFrom (offset + piece.gap.length + piece.lexeme.length) rest

end Piece

/-! Lexemes are not empty and have no blanks. -/

theorem Shape.ne_nil_of_fits {shape : Shape} {lexeme rest : Bytes}
    (fits : shape.Fits lexeme rest) : lexeme ≠ [] := by
  obtain ⟨first, tail, _, _, found⟩ := Lexeme.read_of_fits fits
  have read := Lexeme.text_ne_nil first tail
  rwa [found] at read

theorem Shape.stops_of_fits {shape : Shape} {lexeme rest : Bytes}
    (fits : shape.Fits lexeme rest) :
    ∀ byte tail, lexeme ++ rest = byte :: tail → isBlank byte = false := by
  obtain ⟨first, tail, split, notBlank, _⟩ := Lexeme.read_of_fits fits
  intro byte after equal
  rw [split] at equal
  rw [← (List.cons.inj equal).1]
  exact notBlank

theorem IsInteger.isBlank_eq_false {text : Bytes} (integer : IsInteger text) :
    ∀ byte ∈ text, isBlank byte = false := by
  obtain ⟨digits, decimals, rfl | rfl⟩ := integer
  · intro byte member
    exact isBlank_eq_false_of_isDigit (decimals.2 byte member)
  · intro byte member
    rcases List.mem_cons.mp member with rfl | member
    · decide
    · exact isBlank_eq_false_of_isDigit (decimals.2 byte member)

theorem Shape.isBlank_eq_false_of_fits {shape : Shape} {lexeme rest : Bytes}
    (fits : shape.Fits lexeme rest) : ∀ byte ∈ lexeme, isBlank byte = false := by
  cases shape with
  | operator kind =>
      obtain ⟨sign, rfl, member, _⟩ := exists_of_mem_operators fits
      intro byte single
      rw [List.mem_singleton.mp single]
      exact isBlank_of_mem_signs member
  | minus =>
      obtain ⟨rfl, _⟩ := fits
      decide +kernel
  | number =>
      obtain ⟨_, ⟨integer, digits, whole, decimals, rfl⟩ | ⟨whole, _⟩⟩ := fits
      · intro byte member
        rcases List.mem_append.mp member with member | member
        · exact whole.isBlank_eq_false byte member
        · rcases List.mem_cons.mp member with rfl | member
          · decide
          · exact isBlank_eq_false_of_isDigit (decimals.2 byte member)
      · exact whole.isBlank_eq_false
  | word =>
      obtain ⟨⟨_, inside⟩, _⟩ := fits
      exact fun byte member => (inside byte member).2

namespace Splits

theorem cases_text {text tail : Bytes} {pieces : List Piece} (splits : Splits text pieces tail) :
    (IsGap text ∧ pieces = [] ∧ tail = text) ∨
      ∃ gap shape lexeme rest others, text = gap ++ (lexeme ++ rest) ∧
        pieces = ⟨gap, shape, lexeme⟩ :: others ∧ IsGap gap ∧ shape.Fits lexeme rest ∧
          Splits rest others tail := by
  cases splits with
  | done blank => exact .inl ⟨blank, rfl, rfl⟩
  | piece blank fits others => exact .inr ⟨_, _, _, _, _, rfl, rfl, blank, fits, others⟩

theorem lexeme_spec {text tail : Bytes} {pieces : List Piece} (splits : Splits text pieces tail) :
    ∀ piece ∈ pieces, piece.lexeme ≠ [] ∧ ∀ byte ∈ piece.lexeme, isBlank byte = false := by
  induction splits with
  | done _ => simp
  | piece _ fits _ induction =>
      intro piece member
      rcases List.mem_cons.mp member with rfl | member
      · exact ⟨Shape.ne_nil_of_fits fits, Shape.isBlank_eq_false_of_fits fits⟩
      · exact induction piece member

theorem existence (text : Bytes) : ∃ pieces tail, Splits text pieces tail := by
  induction length : text.length using Nat.strongRecOn generalizing text with
  | ind count induction =>
      obtain ⟨gap, rest, rfl, blank, stops⟩ := exists_run isBlank text
      cases rest with
      | nil => exact ⟨[], gap, by simpa using Splits.done blank⟩
      | cons first rest =>
          obtain ⟨shape, lexeme, after, split, fits⟩ :=
            Shape.exists_fits rest (stops first rest rfl)
          have positive : 0 < lexeme.length :=
            List.length_pos_iff.mpr (Shape.ne_nil_of_fits fits)
          have shorter : after.length < count := by
            have total := congrArg List.length split
            simp only [List.length_cons, List.length_append] at total length
            omega
          obtain ⟨pieces, tail, others⟩ := induction after.length shorter after rfl
          rw [split]
          exact ⟨⟨gap, shape, lexeme⟩ :: pieces, tail, .piece blank fits others⟩

private theorem not_isGap_of_fits {gap lexeme rest : Bytes} {shape : Shape}
    (fits : shape.Fits lexeme rest) : ¬ IsGap (gap ++ (lexeme ++ rest)) := by
  intro blank
  obtain ⟨first, tail, split, notBlank, _⟩ := Lexeme.read_of_fits fits
  rw [split] at blank
  have blankToo := blank first (by simp)
  rw [notBlank] at blankToo
  contradiction

theorem unique {text tail rest : Bytes} {pieces others : List Piece}
    (splits : Splits text pieces tail) (splitsToo : Splits text others rest) :
    others = pieces ∧ rest = tail := by
  induction splits generalizing others rest with
  | done blank =>
      rcases splitsToo.cases_text with ⟨_, rfl, rfl⟩ | ⟨_, _, _, _, _, rfl, _, _, fits, _⟩
      · exact ⟨rfl, rfl⟩
      · exact absurd blank (not_isGap_of_fits fits)
  | piece blank fits _ induction =>
      rcases splitsToo.cases_text with ⟨allBlank, _, _⟩ |
        ⟨gap, shape, lexeme, after, later, same, rfl, blankToo, fitsToo, splitsLater⟩
      · exact absurd allBlank (not_isGap_of_fits fits)
      · obtain ⟨rfl, lexemes⟩ := run_unique blank blankToo (Shape.stops_of_fits fits)
          (Shape.stops_of_fits fitsToo) same
        obtain ⟨rfl, rfl, rfl⟩ := Shape.fits_unique fits fitsToo lexemes
        obtain ⟨rfl, rfl⟩ := induction splitsLater
        exact ⟨rfl, rfl⟩

end Splits

/-- A lexeme spells a number, an operator or a keyword, and nothing else. -/
theorem Shape.kind_of_fits {shape : Shape} {lexeme rest : Bytes} {kind : Kind}
    (fits : shape.Fits lexeme rest) (found : shape.kind? lexeme = some kind) :
    kind ∉ [.endOfInput, .invalid, .other] := by
  cases shape with
  | operator operator =>
      have all : ∀ entry ∈ operators, entry.2 ∉ [.endOfInput, .invalid, .other] := by decide
      cases found
      exact all (lexeme, kind) fits
  | minus =>
      cases found
      decide
  | number =>
      cases found
      decide
  | word =>
      have all : ∀ entry ∈ Kind.keywords, entry.2 ∉ [.endOfInput, .invalid, .other] := by decide
      obtain ⟨before, after, equal, _⟩ := List.lookup_eq_some_iff.mp found
      exact all (lexeme, kind) (by simp [equal])

namespace Piece

theorem kind_token_ne_endOfInput (piece : Piece) {rest : Bytes}
    (fits : piece.shape.Fits piece.lexeme rest) (column : Nat) :
    (piece.token column).kind ≠ .endOfInput := by
  unfold token
  cases found : piece.shape.kind? piece.lexeme with
  | none => simp
  | some kind =>
      have spelled := Shape.kind_of_fits fits found
      rintro rfl
      simp at spelled

theorem kind_token_eq_invalid_iff (piece : Piece) {rest : Bytes}
    (fits : piece.shape.Fits piece.lexeme rest) (column : Nat) :
    (piece.token column).kind = .invalid ↔ piece.shape.kind? piece.lexeme = none := by
  unfold token
  cases found : piece.shape.kind? piece.lexeme with
  | none => simp
  | some kind =>
      have spelled := Shape.kind_of_fits fits found
      simp at spelled ⊢
      exact spelled.2.1

end Piece

end Rpn.Token

namespace Rpn.Scanner

open Token

theorem skipBlanks_of_gap {gap rest : Bytes} (blank : IsGap gap)
    (stops : ∀ byte tail, rest = byte :: tail → isBlank byte = false) (offset : Nat) :
    (Scanner.mk offset (gap ++ rest)).skipBlanks = ⟨offset + gap.length, rest⟩ := by
  simp [skipBlanks, advance, takeWhile_run blank stops]

theorem next_of_gap {tail : Bytes} (blank : IsGap tail) (offset : Nat) :
    (Scanner.mk offset tail).next =
      (⟨.endOfInput, [], offset + tail.length + 1⟩, ⟨offset + tail.length, []⟩) := by
  have nothing : ∀ byte after, ([] : Bytes) = byte :: after → isBlank byte = false := by simp
  have skipped := skipBlanks_of_gap blank nothing offset
  rw [List.append_nil] at skipped
  simp [next, skipped]

theorem next_of_fits {gap lexeme rest : Bytes} {shape : Shape} (blank : IsGap gap)
    (fits : shape.Fits lexeme rest) (offset : Nat) :
    (Scanner.mk offset (gap ++ (lexeme ++ rest))).next =
      (Piece.token ⟨gap, shape, lexeme⟩ (offset + gap.length + 1),
        ⟨offset + gap.length + lexeme.length, rest⟩) := by
  obtain ⟨first, tail, split, _, found⟩ := Lexeme.read_of_fits fits
  have skipped := skipBlanks_of_gap blank (Shape.stops_of_fits fits) offset
  have remains : (first :: tail).drop lexeme.length = rest := by
    rw [← split, List.drop_left]
  rw [split] at skipped ⊢
  simp only [next, skipped, found, advance, remains]
  rfl

/-- Draining a scanner gives the tokens of the pieces of what it has left. -/
theorem drain_of_splits {text tail : Bytes} {pieces : List Piece}
    (splits : Splits text pieces tail) (offset : Nat) :
    (Scanner.mk offset text).drain =
      Piece.tokensFrom offset pieces ++ [⟨.endOfInput, [], offset + text.length + 1⟩] := by
  induction splits generalizing offset with
  | done blank =>
      rw [drain, next_of_gap blank]
      simp [Piece.tokensFrom]
  | @piece gap lexeme rest tail shape pieces blank fits others induction =>
      have more := Piece.kind_token_ne_endOfInput ⟨gap, shape, lexeme⟩ fits
        (offset + gap.length + 1)
      rw [drain, next_of_fits blank fits, if_neg more, induction]
      simp [Piece.tokensFrom]
      omega

end Rpn.Scanner

namespace Rpn.Token

/-- Scanning follows the only split of a text: a token for every lexeme, at its column, and the
end token after them. -/
theorem scan_follows_unique_split (text : Bytes) :
    ∃ pieces tail,
      Splits text pieces tail ∧
      (∀ piece ∈ pieces, piece.lexeme ≠ [] ∧ ∀ byte ∈ piece.lexeme, isBlank byte = false) ∧
      scan text = Piece.tokensFrom 0 pieces ++ [⟨.endOfInput, [], text.length + 1⟩] ∧
      ∀ others rest, Splits text others rest → others = pieces ∧ rest = tail := by
  obtain ⟨pieces, tail, splits⟩ := Splits.existence text
  refine ⟨pieces, tail, splits, splits.lexeme_spec, ?_, ?_⟩
  · have drained := Scanner.drain_of_splits splits 0
    rwa [Nat.zero_add] at drained
  · intro others rest splitsToo
    exact splits.unique splitsToo

end Rpn.Token

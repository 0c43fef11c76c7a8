import Mathlib.Data.List.Forall2
import Rpn.Proofs.Expression.Reading

/-! How tokens are spelled.  Lexemes that stand apart from each other are read as the tokens that
they spell, whatever blanks are between them. -/

namespace Rpn

namespace Token

/-- Only a blank or the end of the input follows. -/
def EndsLexeme (rest : Bytes) : Prop :=
  ∀ byte tail, rest = byte :: tail → isBlank byte = true

/-- A text is a lexeme of a kind wherever it stands apart. -/
def Spells (kind : Kind) (text : Bytes) : Prop :=
  ∃ shape : Shape, shape.kind? text = some kind ∧ ∀ rest, EndsLexeme rest → shape.Fits text rest

theorem endsLexeme_of_isGap {gap : Bytes} (blank : IsGap gap) : EndsLexeme gap := by
  rintro byte tail rfl
  exact blank byte (by simp)

theorem endsLexeme_append {gap : Bytes} (blank : IsGap gap) (separate : gap ≠ []) (rest : Bytes) :
    EndsLexeme (gap ++ rest) := by
  obtain ⟨first, others, rfl⟩ := List.exists_cons_of_ne_nil separate
  rintro byte tail equal
  rw [← (List.cons.inj equal).1]
  exact blank first (by simp)

namespace EndsLexeme

variable {rest : Bytes}

theorem startsWithDigit_eq_false (ends : EndsLexeme rest) : startsWithDigit rest = false := by
  refine startsWithDigit_eq_false_iff.mpr fun byte tail equal => ?_
  cases digit : isDigit byte with
  | false => rfl
  | true => exact absurd (ends byte tail equal) (by simp [isBlank_eq_false_of_isDigit digit])

theorem ne_cons (ends : EndsLexeme rest) {byte : UInt8} (solid : isBlank byte = false)
    (tail : Bytes) : rest ≠ byte :: tail := fun equal =>
  Bool.noConfusion (solid.symm.trans (ends byte tail equal))

end EndsLexeme

/-- What a lexeme is does not depend on what stands apart from it. -/
theorem Shape.fits_apart {shape : Shape} {lexeme rest other : Bytes}
    (fits : shape.Fits lexeme rest) (ends : EndsLexeme other) : shape.Fits lexeme other := by
  cases shape with
  | operator kind => exact fits
  | minus => exact ⟨fits.1, ends.startsWithDigit_eq_false⟩
  | number =>
      refine ⟨ends.startsWithDigit_eq_false, fits.2.imp id fun integer => ⟨integer.1, ?_⟩⟩
      exact fun tail equal => absurd equal (ends.ne_cons (by decide) tail)
  | word => exact ⟨fits.1, fun byte tail equal => .inr (ends byte tail equal)⟩

theorem spells_of_fits {shape : Shape} {lexeme rest : Bytes} {kind : Kind}
    (fits : shape.Fits lexeme rest) (found : shape.kind? lexeme = some kind) :
    Spells kind lexeme :=
  ⟨shape, found, fun _ ends => Shape.fits_apart fits ends⟩

theorem spells_number {literal : Bytes} (number : IsNumber literal) : Spells .number literal := by
  refine ⟨.number, rfl, fun rest ends => ⟨ends.startsWithDigit_eq_false, ?_⟩⟩
  rcases number with integer | fraction
  · exact .inr ⟨integer, fun tail equal => absurd equal (ends.ne_cons (by decide) tail)⟩
  · exact .inl fraction

/-- No text spells the end of the input. -/
theorem Spells.kind_not_mem {kind : Kind} {text : Bytes} (spells : Spells kind text) :
    kind ∉ [.endOfInput, .invalid, .other] := by
  obtain ⟨shape, found, fits⟩ := spells
  exact Shape.kind_of_fits (fits [] (fun _ _ equal => nomatch equal)) found

theorem spells_factorial {text : Bytes} (spelling : text ∈ [ascii "!", ascii "factorial"]) :
    Spells .factorial text := by
  have word : IsWord (ascii "factorial") := by
    refine ⟨⟨102, ascii "actorial", rfl, by decide⟩, ?_⟩
    have all : ∀ byte ∈ ascii "factorial", isDigit byte = false ∧ isBlank byte = false := by
      decide +kernel
    exact all
  rcases List.mem_cons.mp spelling with rfl | spelling
  · have sign : (ascii "!", Kind.factorial) ∈ operators := by decide
    exact ⟨.operator .factorial, rfl, fun _ _ => sign⟩
  · rw [List.mem_singleton.mp spelling]
    exact ⟨.word, rfl, fun rest ends =>
      ⟨word, fun byte tail equal => .inr (ends byte tail equal)⟩⟩

/-- Texts one after the other with blanks between any two of them. -/
inductive Spaced : List Bytes → Bytes → Prop
  | single (text : Bytes) : Spaced [text] text
  | cons {text gap rest : Bytes} {texts : List Bytes} (blank : IsGap gap) (separate : gap ≠ [])
      (others : Spaced texts rest) : Spaced (text :: texts) (text ++ (gap ++ rest))

/-- Lexemes that stand apart are the pieces of their text. -/
theorem Spaced.exists_splits {kinds : List Kind} {texts : List Bytes}
    {leading body trailing : Bytes} (spaced : Spaced texts body)
    (spelled : List.Forall₂ Spells kinds texts) (before : IsGap leading) (after : IsGap trailing) :
    ∃ pieces, Splits (leading ++ (body ++ trailing)) pieces trailing ∧
      pieces.map (fun piece => piece.shape.kind? piece.lexeme) = kinds.map some ∧
      pieces.map Piece.lexeme = texts := by
  induction spaced generalizing kinds leading with
  | single text =>
      obtain ⟨kind, _, ⟨shape, found, fits⟩, none, rfl⟩ := List.forall₂_cons_right_iff.mp spelled
      cases none
      have ends := endsLexeme_of_isGap after
      exact ⟨[⟨leading, shape, text⟩], .piece before (fits trailing ends) (.done after),
        by simp [found], rfl⟩
  | @cons text gap rest texts blank separate others induction =>
      obtain ⟨kind, later, ⟨shape, found, fits⟩, spelledLater, rfl⟩ :=
        List.forall₂_cons_right_iff.mp spelled
      obtain ⟨pieces, splits, kindsLater, textsLater⟩ := induction spelledLater blank
      have ends := endsLexeme_append blank separate (rest ++ trailing)
      have split := Splits.piece before (fits _ ends) splits
      exact ⟨⟨leading, shape, text⟩ :: pieces, by simpa using split, by simp [found, kindsLater],
        by simp [textsLater]⟩

theorem Piece.map_tokensFrom {pieces : List Piece} {kinds : List Kind} (offset : Nat)
    (known : pieces.map (fun piece => piece.shape.kind? piece.lexeme) = kinds.map some) :
    (tokensFrom offset pieces).map Token.kind = kinds ∧
      (tokensFrom offset pieces).map Token.literal = pieces.map Piece.lexeme := by
  induction pieces generalizing offset kinds with
  | nil =>
      cases kinds with
      | nil => exact ⟨rfl, rfl⟩
      | cons kind kinds => cases known
  | cons piece pieces induction =>
      cases kinds with
      | nil => cases known
      | cons kind kinds =>
          obtain ⟨found, others⟩ := List.cons.inj known
          obtain ⟨kindsLater, textsLater⟩ :=
            induction (offset + piece.gap.length + piece.lexeme.length) others
          simp [tokensFrom, token, found, kindsLater, textsLater]

end Token

namespace Expression

open Token

/-! The tokens of an expression are spelled by their literals. -/

theorem resolve_of_constant?_eq_none {token : Token} (plain : constant? token.kind = none) :
    resolve token = token := by
  simp [resolve, plain]

theorem constant?_kind_resolve (token : Token) : constant? (resolve token).kind = none := by
  obtain ⟨kind, literal, column⟩ := token
  cases kind <;> rfl

/-- The lexemes of an expression, with the decimals in the place of the named constants. -/
def typed (lexeme : Bytes) : Bytes :=
  if lexeme = ascii "pi" then ascii "3.141593"
  else if lexeme = ascii "e" then ascii "2.718282"
  else lexeme

theorem constant?_of_spells {kind : Kind} {lexeme : Bytes} (spells : Spells kind lexeme) :
    (constant? kind).getD lexeme = typed lexeme := by
  obtain ⟨shape, found, fits⟩ := spells
  have alone := fits [] (fun _ _ equal => nomatch equal)
  have noName : IsNumber lexeme ∨ (∃ sign, lexeme = [sign] ∧ sign ∈ signs) →
      lexeme ≠ ascii "pi" ∧ lexeme ≠ ascii "e" := by
    rintro (number | ⟨sign, rfl, member⟩)
    · have unlike : ∀ name ∈ [ascii "pi", ascii "e"], ¬ IsNumber name := by
        intro name member number
        obtain ⟨first, tail, rfl, begins⟩ := number.exists_cons
        simp only [List.mem_cons, List.not_mem_nil, or_false] at member
        rcases member with equal | equal <;> cases equal <;> revert begins <;> decide
      exact ⟨fun equal => unlike _ (by simp) (equal ▸ number),
        fun equal => unlike _ (by simp) (equal ▸ number)⟩
    · have all : ∀ sign ∈ signs, [sign] ≠ ascii "pi" ∧ [sign] ≠ ascii "e" := by
        decide +kernel
      exact all sign member
  cases shape with
  | operator operator =>
      cases found
      have unnamed : ∀ entry ∈ operators, constant? entry.2 = none := by decide
      obtain ⟨sign, single, member, _⟩ := exists_of_mem_operators alone
      obtain ⟨noPi, noE⟩ := noName (.inr ⟨sign, single, member⟩)
      simp [unnamed (lexeme, kind) alone, typed, noPi, noE]
  | minus =>
      cases found
      obtain ⟨rfl, _⟩ := alone
      decide
  | number =>
      cases found
      obtain ⟨noPi, noE⟩ := noName (.inl (Shape.isNumber_of_fits alone))
      simp [constant?, typed, noPi, noE]
  | word =>
      have all : ∀ entry ∈ Kind.keywords, (constant? entry.2).getD entry.1 = typed entry.1 := by
        decide
      obtain ⟨earlier, later, equal, _⟩ := List.lookup_eq_some_iff.mp found
      exact all (lexeme, kind) (by simp [equal])

/-- A token is resolved to what its literal spells. -/
theorem spells_resolve {kind : Kind} {lexeme : Bytes} (spells : Spells kind lexeme) (column : Nat) :
    Spells (resolve ⟨kind, lexeme, column⟩).kind (resolve ⟨kind, lexeme, column⟩).literal ∧
      (resolve ⟨kind, lexeme, column⟩).literal = typed lexeme := by
  have literal := constant?_of_spells spells
  unfold resolve
  cases found : constant? kind with
  | none =>
      rw [found] at literal
      exact ⟨spells, literal⟩
  | some decimals =>
      rw [found] at literal
      exact ⟨spells_number (isNumber_constant found), literal⟩

theorem spells_resolve_tokensFrom {text tail : Bytes} {pieces : List Piece}
    (splits : Splits text pieces tail) (offset : Nat)
    (known : ∀ piece ∈ pieces, piece.shape.kind? piece.lexeme ≠ none) :
    (∀ token ∈ (Piece.tokensFrom offset pieces).map resolve, Spells token.kind token.literal) ∧
      ((Piece.tokensFrom offset pieces).map resolve).map Token.literal =
        (pieces.map Piece.lexeme).map typed := by
  induction splits generalizing offset with
  | done _ => simp [Piece.tokensFrom]
  | @piece gap lexeme rest tail shape pieces _ fits _ induction =>
      obtain ⟨kind, found⟩ := Option.ne_none_iff_exists'.mp
        (known ⟨gap, shape, lexeme⟩ (List.mem_cons_self ..))
      obtain ⟨spells, literal⟩ :=
        spells_resolve (spells_of_fits fits found) (offset + gap.length + 1)
      obtain ⟨spelled, literals⟩ := induction (offset + gap.length + lexeme.length)
        fun piece member => known piece (List.mem_cons_of_mem _ member)
      have token : Piece.token ⟨gap, shape, lexeme⟩ (offset + gap.length + 1) =
          ⟨kind, lexeme, offset + gap.length + 1⟩ := by
        simp only [Piece.token, found]
      simp only [Piece.tokensFrom, token, List.map_cons, List.forall_mem_cons, literals]
      exact ⟨⟨spells, spelled⟩, by rw [literal]⟩

/-- An expression is read as the tokens that its lexemes spell. -/
theorem exists_splits_of_read {text : Bytes} {tokens : List Token}
    (accepted : read text = .ok tokens) :
    ∃ pieces tail, Splits text pieces tail ∧
      tokens.map Token.literal = (pieces.map Piece.lexeme).map typed ∧
      Ordered (fun token => token.kind = .number) tokens ∧
      ∀ token ∈ tokens, Spells token.kind token.literal ∧ constant? token.kind = none := by
  obtain ⟨pieces, tail, splits⟩ := Splits.existence text
  have known := ((exists_read_eq_ok_iff splits).mp ⟨tokens, accepted⟩).1
  have valid := (forall_valid_tokensFrom_iff splits 0).mpr known
  have noInvalid : (Piece.tokensFrom 0 pieces).find? (·.kind == .invalid) = none := by
    simpa using valid
  unfold read Scanner.ofInput at accepted
  rw [collect_of_splits splits, noInvalid] at accepted
  obtain ⟨rfl, ordered⟩ := validate_eq_ok_iff.mp accepted
  obtain ⟨spelled, literals⟩ := spells_resolve_tokensFrom splits 0 known
  refine ⟨pieces, tail, splits, literals, ordered, fun token member => ⟨spelled token member, ?_⟩⟩
  obtain ⟨source, _, rfl⟩ := List.mem_map.mp member
  exact constant?_kind_resolve source

/-- Lexemes that stand apart are read as the tokens that they spell. -/
theorem exists_read_of_spaced {kinds : List Kind} {texts : List Bytes}
    {leading body trailing : Bytes} (spaced : Spaced texts body)
    (spelled : List.Forall₂ Spells kinds texts) (before : IsGap leading) (after : IsGap trailing)
    (ordered : Ordered (· = .number) kinds) (resolved : ∀ kind ∈ kinds, constant? kind = none) :
    ∃ tokens, read (leading ++ (body ++ trailing)) = .ok tokens ∧
      tokens.map Token.kind = kinds ∧ tokens.map Token.literal = texts := by
  obtain ⟨pieces, splits, known, lexemes⟩ := spaced.exists_splits spelled before after
  obtain ⟨sameKinds, sameTexts⟩ := Piece.map_tokensFrom 0 known
  have found : ∀ piece ∈ pieces, piece.shape.kind? piece.lexeme ≠ none := by
    intro piece member
    have shaped := List.mem_map_of_mem (f := fun piece => piece.shape.kind? piece.lexeme) member
    rw [known] at shaped
    obtain ⟨kind, _, equal⟩ := List.mem_map.mp shaped
    simp [← equal]
  have valid : (Piece.tokensFrom 0 pieces).find? (·.kind == .invalid) = none := by
    simpa using (forall_valid_tokensFrom_iff splits 0).mpr found
  have unchanged : (Piece.tokensFrom 0 pieces).map resolve = Piece.tokensFrom 0 pieces := by
    refine (List.map_congr_left fun token member => ?_).trans (List.map_id _)
    exact resolve_of_constant?_eq_none (resolved _ (sameKinds ▸ List.mem_map_of_mem member))
  refine ⟨Piece.tokensFrom 0 pieces, ?_, sameKinds, sameTexts.trans lexemes⟩
  unfold read Scanner.ofInput
  rw [collect_of_splits splits, valid, unchanged]
  rw [← sameKinds] at ordered
  exact validate_eq_ok_iff.mpr ⟨rfl, (Ordered.map_iff _ _).mp ordered⟩

end Expression

end Rpn

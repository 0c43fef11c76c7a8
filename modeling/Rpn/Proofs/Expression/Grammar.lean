import Rpn.Proofs.Expression.Reading

/-! Expressions by a grammar.  The grammar does not ask for the longest lexemes: digits may be
given to one number or to several, and a minus sign may be an operator or belong to a number.
Reading by longest lexemes still accepts all that the grammar accepts, because lexemes that run
together are joined to longer ones. -/

namespace Rpn.Expression

open Token

/-- The words of the grammar. -/
def words : List Bytes :=
  [ascii "abs", ascii "cos", ascii "dup", ascii "e", ascii "factorial", ascii "pi", ascii "sin",
    ascii "sqrt", ascii "swap", ascii "tan"]

/-- A sign, a number, or a word that nothing but a digit or a blank follows. -/
def IsLexeme (lexeme rest : Bytes) : Prop :=
  (∃ byte ∈ signs, lexeme = [byte]) ∨ IsNumber lexeme ∨ lexeme ∈ words ∧ EndsWord rest

/-- A text as lexemes with blanks around them, each with a condition on what follows it. -/
inductive Segments (MayFollow : (lexeme rest : Bytes) → Prop) : Bytes → List Bytes → Prop
  | done {tail : Bytes} (blank : IsGap tail) : Segments MayFollow tail []
  | lexeme {gap lexeme rest : Bytes} {lexemes : List Bytes} (blank : IsGap gap)
      (lexical : IsLexeme lexeme rest) (allowed : MayFollow lexeme rest)
      (others : Segments MayFollow rest lexemes) :
      Segments MayFollow (gap ++ (lexeme ++ rest)) (lexeme :: lexemes)

/-- A fraction takes all the digits that follow it. -/
def EndsFraction (lexeme rest : Bytes) : Prop :=
  IsFraction lexeme → startsWithDigit rest = false

/-! Words. -/

/-- The words of the grammar are those of the table that tokens are made by. -/
theorem mem_words_iff {word : Bytes} :
    word ∈ words ↔ ∃ kind, (word, kind) ∈ Kind.keywords := by
  have listed : words = Kind.keywords.map Prod.fst := rfl
  simp [listed]

private theorem bytes_of_mem_words {word : Bytes} (listed : word ∈ words) :
    word ≠ [] ∧ ∀ byte ∈ word, byte ∉ signs ∧ byte ≠ Ascii.dot ∧
      isDigit byte = false ∧ isBlank byte = false := by
  revert word
  decide +kernel

private theorem isWord_of_mem_words {word : Bytes} (listed : word ∈ words) : IsWord word := by
  obtain ⟨some, bytes⟩ := bytes_of_mem_words listed
  cases word with
  | nil => exact absurd rfl some
  | cons first tail =>
      refine ⟨⟨first, tail, rfl, (bytes first (by simp)).1⟩, ?_⟩
      intro byte member
      exact (bytes byte member).2.2

/-! From the longest lexemes to the grammar. -/

theorem segments_of_splits {text tail : Bytes} {pieces : List Piece}
    (splits : Splits text pieces tail)
    (known : ∀ piece ∈ pieces, piece.shape.kind? piece.lexeme ≠ none) :
    Segments EndsFraction text (pieces.map Piece.lexeme) := by
  induction splits with
  | done blank => exact .done blank
  | @piece gap lexeme rest tail shape pieces blank fits _ induction =>
      have others := induction fun piece member => known piece (by simp [member])
      refine .lexeme blank ?_ ?_ others
      · cases shape with
        | operator kind =>
            obtain ⟨byte, rfl, sign, _⟩ := exists_of_mem_operators fits
            exact .inl ⟨byte, sign, rfl⟩
        | minus => exact .inl ⟨Ascii.minus, minus_mem_signs, fits.1⟩
        | number => exact .inr (.inl (Shape.isNumber_of_fits fits))
        | word =>
            have some := known ⟨gap, .word, lexeme⟩ (by simp)
            obtain ⟨kind, found⟩ := Option.ne_none_iff_exists'.mp some
            obtain ⟨before, after, equal, _⟩ := List.lookup_eq_some_iff.mp found
            exact .inr (.inr ⟨mem_words_iff.mpr ⟨kind, by simp [equal]⟩, fits.2⟩)
      · intro fraction
        have number := (Shape.isNumber_iff_of_fits fits).mp (.inr fraction)
        subst number
        exact fits.1

/-! Lexemes that run together.  The first byte of a lexeme tells what it may be. -/

private theorem IsLexeme.exists_cons {lexeme rest : Bytes} (lexical : IsLexeme lexeme rest) :
    ∃ first tail, lexeme = first :: tail ∧ first ≠ Ascii.dot ∧ isBlank first = false ∧
      (isDigit first = true → IsNumber lexeme) := by
  rcases lexical with ⟨byte, sign, rfl⟩ | number | ⟨listed, _⟩
  · have notDot : ∀ byte ∈ signs, byte ≠ Ascii.dot := by decide +kernel
    refine ⟨byte, [], rfl, notDot byte sign, isBlank_of_mem_signs sign, ?_⟩
    intro digit
    exact absurd sign (not_mem_signs_of_isDigit digit)
  · obtain ⟨first, tail, rfl, digit | ⟨rfl, _⟩⟩ := number.exists_cons
    · have notDot : first ≠ Ascii.dot := by
        rintro rfl
        contradiction
      exact ⟨first, tail, rfl, notDot, isBlank_eq_false_of_isDigit digit, fun _ => number⟩
    · exact ⟨Ascii.minus, tail, rfl, by decide, by decide, fun _ => number⟩
  · obtain ⟨some, bytes⟩ := bytes_of_mem_words listed
    cases lexeme with
    | nil => exact absurd rfl some
    | cons first tail =>
        obtain ⟨_, notDot, noDigit, notBlank⟩ := bytes first (by simp)
        refine ⟨first, tail, rfl, notDot, notBlank, ?_⟩
        intro digit
        rw [noDigit] at digit
        contradiction

/-- The first lexeme of a text that does not begin with a blank begins the text. -/
private theorem Segments.of_cons {MayFollow : Bytes → Bytes → Prop} {first : UInt8} {tail : Bytes}
    {lexemes : List Bytes} (segments : Segments MayFollow (first :: tail) lexemes)
    (notBlank : isBlank first = false) :
    ∃ lexeme rest others, first :: tail = lexeme ++ rest ∧ lexemes = lexeme :: others ∧
      IsLexeme lexeme rest ∧ MayFollow lexeme rest ∧ Segments MayFollow rest others ∧
      first ≠ Ascii.dot ∧ (isDigit first = true → IsNumber lexeme) := by
  generalize equal : first :: tail = text at segments
  cases segments with
  | done blank =>
      have blankToo := blank first (by simp [← equal])
      rw [notBlank] at blankToo
      contradiction
  | @lexeme gap lexeme rest others blank lexical allowed segments =>
      cases gap with
      | cons byte gap =>
          have blankToo := blank first (by simp [(List.cons.inj equal).1])
          rw [notBlank] at blankToo
          contradiction
      | nil =>
          obtain ⟨byte, more, rfl, notDot, _, number⟩ := lexical.exists_cons
          obtain ⟨rfl, _⟩ := List.cons.inj equal
          exact ⟨_, rest, others, by simp, rfl, lexical, allowed, segments, notDot, number⟩

/-- No lexeme begins with a point. -/
private theorem Segments.no_point {MayFollow : Bytes → Bytes → Prop} {tail : Bytes}
    {lexemes : List Bytes} : ¬ Segments MayFollow (Ascii.dot :: tail) lexemes := by
  intro segments
  obtain ⟨_, _, _, _, _, _, _, _, notDot, _⟩ := segments.of_cons (by decide)
  exact notDot rfl

/-- What begins with a digit begins with a number without a sign. -/
private theorem Segments.of_digit {MayFollow : Bytes → Bytes → Prop} {text : Bytes}
    {lexemes : List Bytes} (segments : Segments MayFollow text lexemes)
    (digit : startsWithDigit text = true) :
    ∃ number rest others, text = number ++ rest ∧ lexemes = number :: others ∧
      IsNumber number ∧ startsWithDigit number = true ∧ MayFollow number rest ∧
      Segments MayFollow rest others := by
  cases text with
  | nil => contradiction
  | cons first tail =>
      obtain ⟨lexeme, rest, others, equal, rfl, lexical, allowed, later, _, isNumber⟩ :=
        segments.of_cons (isBlank_eq_false_of_isDigit digit)
      have number := isNumber digit
      obtain ⟨byte, more, rfl, _⟩ := number.exists_cons
      obtain ⟨rfl, _⟩ := List.cons.inj equal
      exact ⟨_, rest, others, equal, rfl, number, digit, allowed, later⟩

/-- A beginning that any digits complete to an integer. -/
private def BeginsInteger (text : Bytes) : Prop :=
  ∀ digits, IsDigits digits → IsInteger (text ++ digits)

private theorem beginsInteger_minus : BeginsInteger [Ascii.minus] :=
  fun digits decimals => ⟨digits, decimals, .inr rfl⟩

private theorem beginsInteger_of_isInteger {text : Bytes} (integer : IsInteger text) :
    BeginsInteger text := by
  intro digits decimals
  obtain ⟨leading, ⟨some, inside⟩, signed⟩ := integer
  have all : IsDigits (leading ++ digits) := by
    refine ⟨by simp [some], ?_⟩
    intro byte member
    rcases List.mem_append.mp member with member | member
    · exact inside byte member
    · exact decimals.2 byte member
  rcases signed with rfl | rfl
  · exact ⟨_, all, .inl rfl⟩
  · exact ⟨_, all, .inr rfl⟩

private theorem isDigits_of_isInteger {text : Bytes} (integer : IsInteger text)
    (digit : startsWithDigit text = true) : IsDigits text := by
  obtain ⟨digits, decimals, rfl | rfl⟩ := integer
  · exact decimals
  · contradiction

private theorem dot_not_mem_of_isInteger {text : Bytes} (integer : IsInteger text) :
    Ascii.dot ∉ text := by
  obtain ⟨digits, decimals, rfl | rfl⟩ := integer
  · intro member
    exact absurd (decimals.2 _ member) (by decide)
  · intro member
    rcases List.mem_cons.mp member with equal | member
    · exact absurd equal (by decide)
    · exact absurd (decimals.2 _ member) (by decide)

/-- A number without a sign is joined to what stands before it. -/
private theorem BeginsInteger.join {text number rest : Bytes} (begins : BeginsInteger text)
    (isNumber : IsNumber number) (digit : startsWithDigit number = true)
    (ends : EndsFraction number rest) :
    IsNumber (text ++ number) ∧ EndsFraction (text ++ number) rest := by
  rcases isNumber with integer | ⟨whole, digits, integer, decimals, rfl⟩
  · have joined := begins number (isDigits_of_isInteger integer digit)
    refine ⟨.inl joined, ?_⟩
    rintro ⟨_, _, _, _, equal⟩
    exact absurd (by simp [equal]) (dot_not_mem_of_isInteger joined)
  · have startsWhole : startsWithDigit whole = true := by
      cases whole with
      | nil =>
          obtain ⟨_, ⟨some, _⟩, equal | equal⟩ := integer
          · exact absurd equal.symm some
          · contradiction
      | cons first tail => exact digit
    have joined := begins whole (isDigits_of_isInteger integer startsWhole)
    refine ⟨.inr ⟨text ++ whole, digits, joined, decimals, by simp⟩, ?_⟩
    intro _
    exact ends ⟨whole, digits, integer, decimals, rfl⟩

/-! From the grammar to the longest lexemes. -/

/-- What joining lexemes keeps of their order. -/
structure Coarsens (fine coarse : List Bytes) : Prop where
  first : ∀ lexeme, fine.head? = some lexeme → IsValue lexeme →
    ∃ other, coarse.head? = some other ∧ IsValue other
  last : ∀ lexeme, fine.getLast? = some lexeme → ¬ IsValue lexeme →
    ∃ other, coarse.getLast? = some other ∧ ¬ IsValue other
  length : coarse.length ≤ fine.length

theorem Coarsens.ordered {fine coarse : List Bytes} (coarsens : Coarsens fine coarse)
    (ordered : Ordered IsValue fine) : Ordered IsValue coarse := by
  obtain ⟨⟨lexeme, head, value⟩, single | ⟨last, final, other⟩⟩ := ordered
  · obtain ⟨first, begins, firstValue⟩ := coarsens.first lexeme head value
    refine ⟨⟨first, begins, firstValue⟩, .inl ?_⟩
    have positive : coarse.length ≠ 0 := by
      intro empty
      rw [List.length_eq_zero_iff.mp empty] at begins
      contradiction
    have short := coarsens.length
    omega
  · exact ⟨coarsens.first lexeme head value, .inr (coarsens.last last final other)⟩

theorem Coarsens.cons {fine coarse : List Bytes} (coarsens : Coarsens fine coarse)
    (lexeme : Bytes) : Coarsens (lexeme :: fine) (lexeme :: coarse) where
  first := fun other head value => ⟨lexeme, rfl, by rwa [Option.some.inj head]⟩
  last := by
    intro other final notValue
    rw [List.getLast?_cons] at final ⊢
    cases found : fine.getLast? with
    | none =>
        have empty : coarse = [] := by
          have short := coarsens.length
          rw [List.getLast?_eq_none_iff.mp found] at short
          exact List.length_eq_zero_iff.mp (Nat.le_zero.mp short)
        rw [found] at final
        rw [empty]
        exact ⟨other, final, notValue⟩
    | some last =>
        rw [found] at final
        have same : last = other := Option.some.inj final
        subst same
        obtain ⟨ending, finalToo, notEnding⟩ := coarsens.last last found notValue
        exact ⟨ending, by rw [finalToo]; rfl, notEnding⟩
  length := Nat.succ_le_succ coarsens.length

theorem Coarsens.join {first second : Bytes} {fine coarse : List Bytes}
    (value : IsNumber second) (joined : IsNumber (first ++ second))
    (coarsens : Coarsens ((first ++ second) :: fine) coarse) :
    Coarsens (first :: second :: fine) coarse where
  first := fun _ _ _ => coarsens.first _ rfl (.inl joined)
  last := by
    intro lexeme final notValue
    rw [List.getLast?_cons_cons, List.getLast?_cons] at final
    cases found : fine.getLast? with
    | none =>
        rw [found] at final
        have equal : second = lexeme := Option.some.inj final
        exact absurd (.inl (equal ▸ value)) notValue
    | some last =>
        rw [found] at final
        refine coarsens.last lexeme ?_ notValue
        rw [List.getLast?_cons, found]
        exact final
  length := Nat.le_succ_of_le coarsens.length

/-- A text has a split into known lexemes that is coarser than some lexemes. -/
private def Lengthens (text : Bytes) (lexemes : List Bytes) : Prop :=
  ∃ pieces tail, Splits text pieces tail ∧
    (∀ piece ∈ pieces, piece.shape.kind? piece.lexeme ≠ none) ∧
    Coarsens lexemes (pieces.map Piece.lexeme)

private theorem Lengthens.cons {gap lexeme rest : Bytes} {lexemes : List Bytes} {shape : Shape}
    (blank : IsGap gap) (fits : shape.Fits lexeme rest) (known : shape.kind? lexeme ≠ none)
    (others : Lengthens rest lexemes) :
    Lengthens (gap ++ (lexeme ++ rest)) (lexeme :: lexemes) := by
  obtain ⟨pieces, tail, splits, allKnown, coarsens⟩ := others
  exact ⟨⟨gap, shape, lexeme⟩ :: pieces, tail, .piece blank fits splits,
    List.forall_mem_cons.mpr ⟨known, allKnown⟩, coarsens.cons lexeme⟩

private theorem Lengthens.join {gap first second rest : Bytes} {lexemes : List Bytes}
    (number : IsNumber second) (joined : IsNumber (first ++ second))
    (whole : Lengthens (gap ++ ((first ++ second) ++ rest)) ((first ++ second) :: lexemes)) :
    Lengthens (gap ++ (first ++ (second ++ rest))) (first :: second :: lexemes) := by
  obtain ⟨pieces, tail, splits, known, coarsens⟩ := whole
  rw [List.append_assoc] at splits
  exact ⟨pieces, tail, splits, known, .join number joined coarsens⟩

/-- A lexeme of the grammar is a longest one, unless it begins an integer that goes on behind it. -/
private theorem IsLexeme.fits_or_begins {lexeme rest : Bytes} {lexemes : List Bytes}
    (lexical : IsLexeme lexeme rest) (allowed : EndsFraction lexeme rest)
    (others : Segments EndsFraction rest lexemes) :
    (∃ shape : Shape, shape.Fits lexeme rest ∧ shape.kind? lexeme ≠ none) ∨
      BeginsInteger lexeme ∧ startsWithDigit rest = true := by
  rcases lexical with ⟨byte, sign, rfl⟩ | number | ⟨listed, ends⟩
  · rcases mem_operators_or_minus sign with rfl | ⟨kind, entry⟩
    · cases digit : startsWithDigit rest with
      | false => exact .inl ⟨.minus, ⟨rfl, digit⟩, by simp [Shape.kind?]⟩
      | true => exact .inr ⟨beginsInteger_minus, rfl⟩
    · exact .inl ⟨.operator kind, entry, by simp [Shape.kind?]⟩
  · cases digit : startsWithDigit rest with
    | false =>
        refine .inl ⟨.number, ⟨digit, ?_⟩, by simp [Shape.kind?]⟩
        rcases number with integer | fraction
        · refine .inr ⟨integer, ?_⟩
          rintro tail rfl
          exact absurd others Segments.no_point
        · exact .inl fraction
    | true =>
        rcases number with integer | fraction
        · exact .inr ⟨beginsInteger_of_isInteger integer, rfl⟩
        · rw [allowed fraction] at digit
          contradiction
  · refine .inl ⟨.word, ⟨isWord_of_mem_words listed, ends⟩, ?_⟩
    intro missing
    obtain ⟨kind, entry⟩ := mem_words_iff.mp listed
    have different := List.lookup_eq_none_iff.mp missing (lexeme, kind) entry
    simp at different

/-- Joining the lexemes that run together leads to the longest lexemes.  Every join leaves fewer
lexemes, so the induction is on their number. -/
private theorem Segments.exists_splits {text : Bytes} {lexemes : List Bytes}
    (segments : Segments EndsFraction text lexemes) : Lengthens text lexemes := by
  induction count : lexemes.length using Nat.strongRecOn generalizing text lexemes with
  | ind count induction =>
      cases segments with
      | done blank =>
          exact ⟨[], text, .done blank, by simp, by simp, by simp, by simp⟩
      | @lexeme gap lexeme rest lexemes blank lexical allowed others =>
          rcases lexical.fits_or_begins allowed others with ⟨shape, fits, known⟩ | ⟨begins, digit⟩
          · exact .cons blank fits known (induction lexemes.length (by simp [← count]) others rfl)
          · obtain ⟨number, after, later, rfl, rfl, isNumber, digitToo, ends, segments⟩ :=
              others.of_digit digit
            obtain ⟨joined, endsJoined⟩ := begins.join isNumber digitToo ends
            exact .join isNumber joined (induction (later.length + 1) (by simp [← count])
              (.lexeme blank (.inr (.inl joined)) endsJoined segments) rfl)

/-- Reading accepts the expressions of the grammar and no others. -/
theorem read_accepts_iff_grammar (text : Bytes) :
    (∃ tokens, read text = .ok tokens) ↔
      ∃ lexemes, Segments EndsFraction text lexemes ∧ Ordered IsValue lexemes := by
  constructor
  · intro accepted
    obtain ⟨pieces, tail, splits⟩ := Splits.existence text
    obtain ⟨known, ordered⟩ := (exists_read_eq_ok_iff splits).mp accepted
    exact ⟨_, segments_of_splits splits known, ordered⟩
  · rintro ⟨lexemes, segments, ordered⟩
    obtain ⟨pieces, tail, splits, known, coarsens⟩ := segments.exists_splits
    exact (exists_read_eq_ok_iff splits).mpr ⟨known, coarsens.ordered ordered⟩

private theorem isFraction_of_digits (whole digits : Bytes) (left : IsDigits whole)
    (right : IsDigits digits) : IsFraction (whole ++ Ascii.dot :: digits) :=
  ⟨whole, digits, ⟨whole, left, .inl rfl⟩, right, rfl⟩

/-- Without the condition on fractions the grammar accepts more: the text has the numbers 1.2 and
3.4, but the longest first number leaves a point that begins no lexeme. -/
theorem grammar_accepts_more_when_fractions_split :
    (∃ lexemes, Segments (fun _ _ => True) (ascii "1.23.4 +") lexemes ∧
      Ordered IsValue lexemes) ∧
    ¬ ∃ tokens, read (ascii "1.23.4 +") = .ok tokens := by
  have plus : ([Ascii.plus], Kind.plus) ∈ operators := by decide
  constructor
  · have first : IsFraction (ascii "1.2") :=
      isFraction_of_digits (ascii "1") (ascii "2") (by decide) (by decide)
    have second : IsFraction (ascii "3.4") :=
      isFraction_of_digits (ascii "3") (ascii "4") (by decide) (by decide)
    have final : Segments (fun _ _ => True) (ascii " " ++ (ascii "+" ++ [])) [ascii "+"] :=
      .lexeme (by decide) (.inl ⟨Ascii.plus, by decide, rfl⟩) trivial (.done (by decide))
    have middle : Segments (fun _ _ => True) ([] ++ (ascii "3.4" ++ ascii " +"))
        [ascii "3.4", ascii "+"] :=
      .lexeme (by decide) (.inr (.inl (.inr second))) trivial final
    have whole : Segments (fun _ _ => True) ([] ++ (ascii "1.2" ++ ascii "3.4 +"))
        [ascii "1.2", ascii "3.4", ascii "+"] :=
      .lexeme (by decide) (.inr (.inl (.inr first))) trivial middle
    refine ⟨_, whole, ⟨ascii "1.2", rfl, .inl (.inr first)⟩, .inr ⟨ascii "+", rfl, ?_⟩⟩
    have notNumber : ¬ IsNumber (ascii "+") := by
      have fits : (Shape.operator .plus).Fits (ascii "+") [] := plus
      rw [Shape.isNumber_iff_of_fits fits]
      decide
    rintro (number | name)
    · exact notNumber number
    · revert name
      decide
  · have number : Shape.number.Fits (ascii "1.23") (ascii ".4 +") :=
      ⟨by decide, .inl (isFraction_of_digits (ascii "1") (ascii "23") (by decide) (by decide))⟩
    have point : Shape.word.Fits (ascii ".") (ascii "4 +") :=
      ⟨⟨⟨Ascii.dot, [], rfl, by decide⟩, by decide +kernel⟩, by rintro byte tail ⟨⟩; decide⟩
    obtain ⟨pieces, tail, splits⟩ := Splits.existence (ascii "4 +")
    have later : Splits ([] ++ (ascii "." ++ ascii "4 +"))
        (⟨[], .word, ascii "."⟩ :: pieces) tail :=
      .piece (by decide) point splits
    have all : Splits ([] ++ (ascii "1.23" ++ ascii ".4 +"))
        (⟨[], .number, ascii "1.23"⟩ :: ⟨[], .word, ascii "."⟩ :: pieces) tail :=
      .piece (by decide) number later
    change ¬ ∃ tokens, read ([] ++ (ascii "1.23" ++ ascii ".4 +")) = .ok tokens
    rw [exists_read_eq_ok_iff all]
    rintro ⟨known, _⟩
    exact known ⟨[], .word, ascii "."⟩ (by simp) (by decide)

end Rpn.Expression

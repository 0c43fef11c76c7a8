import Rpn.Proofs.Numeral
import Rpn.Token.Lexeme

/-! The shapes of lexemes, each with what may follow it.  Shapes are said without the reader of
lexemes, and the reader finds exactly the lexeme that fits one. -/

namespace Rpn.Token

def IsDigits (text : Bytes) : Prop :=
  text ≠ [] ∧ ∀ byte ∈ text, isDigit byte = true

instance (text : Bytes) : Decidable (IsDigits text) :=
  @instDecidableAnd _ _ _ (List.decidableBAll _ _)

/-- Digits with or without a minus sign. -/
def IsInteger (text : Bytes) : Prop :=
  ∃ digits, IsDigits digits ∧ (text = digits ∨ text = Ascii.minus :: digits)

/-- An integer, a point and more digits. -/
def IsFraction (text : Bytes) : Prop :=
  ∃ integer digits, IsInteger integer ∧ IsDigits digits ∧
    text = integer ++ Ascii.dot :: digits

def IsNumber (text : Bytes) : Prop :=
  IsInteger text ∨ IsFraction text

/-- The operators that are written with a byte of their own, apart from the minus sign. -/
def operators : List (Bytes × Kind) :=
  [ (ascii "+", .plus), (ascii "*", .times), (ascii "/", .divide), (ascii "%", .modulo),
    (ascii "^", .power), (ascii "!", .factorial) ]

/-- The bytes that no word begins with, apart from digits and blanks. -/
def signs : Bytes :=
  ascii "+-*/%^!"

/-- A word begins with a byte that begins no other lexeme, and has no digits and no blanks. -/
def IsWord (text : Bytes) : Prop :=
  (∃ first rest, text = first :: rest ∧ first ∉ signs) ∧
    ∀ byte ∈ text, isDigit byte = false ∧ isBlank byte = false

/-- Only a digit, a blank or the end of the input follows a word. -/
def EndsWord (rest : Bytes) : Prop :=
  ∀ byte tail, rest = byte :: tail → isDigit byte = true ∨ isBlank byte = true

inductive Shape where
  | operator (kind : Kind)
  | minus
  | number
  | word
  deriving DecidableEq, Repr

namespace Shape

/-- A lexeme has a shape in front of the rest of its input. -/
def Fits : Shape → (lexeme rest : Bytes) → Prop
  | operator kind, lexeme, _ => (lexeme, kind) ∈ operators
  | minus, lexeme, rest => lexeme = [Ascii.minus] ∧ startsWithDigit rest = false
  | number, lexeme, rest =>
      startsWithDigit rest = false ∧
        (IsFraction lexeme ∨
          IsInteger lexeme ∧ ∀ tail, rest = Ascii.dot :: tail → startsWithDigit tail = false)
  | word, lexeme, rest => IsWord lexeme ∧ EndsWord rest

/-- The kind of a lexeme; a word outside the table of keywords has none. -/
def kind? : Shape → Bytes → Option Kind
  | operator kind, _ => some kind
  | minus, _ => some .minus
  | number, _ => some .number
  | word, lexeme => Kind.keywords.lookup lexeme

end Shape

/-! Runs of bytes. -/

/-- A run ends where the rest of the input does not go on with it. -/
theorem takeWhile_run {class? : UInt8 → Bool} {run rest : Bytes}
    (inside : ∀ byte ∈ run, class? byte = true)
    (stops : ∀ byte tail, rest = byte :: tail → class? byte = false) :
    (run ++ rest).takeWhile class? = run := by
  rw [List.takeWhile_append_of_pos inside]
  cases rest with
  | nil => simp
  | cons byte tail => simp [stops byte tail rfl]

theorem dropWhile_run {class? : UInt8 → Bool} {run rest : Bytes}
    (inside : ∀ byte ∈ run, class? byte = true)
    (stops : ∀ byte tail, rest = byte :: tail → class? byte = false) :
    (run ++ rest).dropWhile class? = rest := by
  rw [List.dropWhile_append_of_pos inside]
  cases rest with
  | nil => simp
  | cons byte tail => simp [stops byte tail rfl]

/-- Every text is a run and a rest that does not go on with it. -/
theorem exists_run (class? : UInt8 → Bool) (text : Bytes) :
    ∃ run rest, text = run ++ rest ∧ (∀ byte ∈ run, class? byte = true) ∧
      ∀ byte tail, rest = byte :: tail → class? byte = false := by
  induction text with
  | nil => exact ⟨[], [], rfl, by simp, by simp⟩
  | cons first text induction =>
      cases member : class? first with
      | false =>
          refine ⟨[], first :: text, rfl, by simp, ?_⟩
          rintro byte tail ⟨rfl, rfl⟩
          exact member
      | true =>
          obtain ⟨run, rest, rfl, inside, stops⟩ := induction
          refine ⟨first :: run, rest, rfl, ?_, stops⟩
          intro byte other
          rcases List.mem_cons.mp other with rfl | other
          · exact member
          · exact inside byte other

/-- A text has one run at its beginning. -/
theorem run_unique {class? : UInt8 → Bool} {run other rest after : Bytes}
    (inside : ∀ byte ∈ run, class? byte = true) (insideToo : ∀ byte ∈ other, class? byte = true)
    (stops : ∀ byte tail, rest = byte :: tail → class? byte = false)
    (stopsToo : ∀ byte tail, after = byte :: tail → class? byte = false)
    (same : run ++ rest = other ++ after) : run = other ∧ rest = after := by
  have runs : run = other := by
    rw [← takeWhile_run inside stops, same, takeWhile_run insideToo stopsToo]
  subst runs
  exact ⟨rfl, List.append_cancel_left same⟩

/-- A text has one part before the first place of a byte. -/
theorem cut_unique {byte : UInt8} {start other rest after : Bytes} (absent : byte ∉ start)
    (absentToo : byte ∉ other) (same : start ++ byte :: rest = other ++ byte :: after) :
    start = other ∧ rest = after := by
  have outside : ∀ text : Bytes, byte ∉ text → ∀ inner ∈ text, (inner != byte) = true := by
    intro text missing inner member
    exact bne_iff_ne.mpr fun equal => missing (equal ▸ member)
  have ends : ∀ after first tail, byte :: after = first :: tail → (first != byte) = false := by
    rintro _ _ _ ⟨⟩
    simp
  obtain ⟨starts, rests⟩ := run_unique (outside _ absent) (outside _ absentToo) (ends _) (ends _) same
  exact ⟨starts, (List.cons.inj rests).2⟩

/-- A number at the end of a text can be told from the text before it. -/
theorem numeral_unique {byte : UInt8} (noDigit : isDigit byte = false) {text other : Bytes}
    {number index : Nat}
    (same : text ++ byte :: Bytes.ofNat number = other ++ byte :: Bytes.ofNat index) :
    text = other ∧ number = index := by
  have inside : ∀ number, ∀ digit ∈ (Bytes.ofNat number).reverse, isDigit digit = true :=
    fun number digit member => Bytes.isDigit_of_mem_ofNat (List.mem_reverse.mp member)
  have stops : ∀ before first tail, byte :: before = first :: tail → isDigit first = false := by
    rintro _ _ _ ⟨⟩
    exact noDigit
  have backwards := congrArg List.reverse same
  simp only [List.reverse_append, List.reverse_cons, List.append_assoc, List.singleton_append]
    at backwards
  obtain ⟨digits, texts⟩ := run_unique (inside _) (inside _) (stops _) (stops _) backwards
  exact ⟨List.reverse_inj.mp (List.cons.inj texts).2,
    Bytes.ofNat_injective (List.reverse_inj.mp digits)⟩

theorem startsWithDigit_eq_false_iff {rest : Bytes} :
    startsWithDigit rest = false ↔ ∀ byte tail, rest = byte :: tail → isDigit byte = false := by
  cases rest with
  | nil => simp [startsWithDigit]
  | cons byte tail => simp [startsWithDigit]

namespace IsDigits

theorem cons {byte : UInt8} {digits : Bytes} (digit : isDigit byte = true)
    (inside : ∀ other ∈ digits, isDigit other = true) : IsDigits (byte :: digits) := by
  refine ⟨by simp, ?_⟩
  intro other member
  rcases List.mem_cons.mp member with rfl | member
  · exact digit
  · exact inside other member

theorem exists_cons {text : Bytes} (digits : IsDigits text) :
    ∃ byte tail, text = byte :: tail ∧ isDigit byte = true := by
  cases text with
  | nil => exact absurd rfl digits.1
  | cons byte tail => exact ⟨byte, tail, rfl, digits.2 byte (by simp)⟩

theorem startsWithDigit_append {text : Bytes} (digits : IsDigits text) (rest : Bytes) :
    startsWithDigit (text ++ rest) = true := by
  obtain ⟨byte, tail, rfl, digit⟩ := digits.exists_cons
  exact digit

theorem ofNat (number : Nat) : IsDigits (.ofNat number) :=
  ⟨Bytes.ofNat_ne_nil number, fun _ => Bytes.isDigit_of_mem_ofNat⟩

end IsDigits

/-! The bytes of operators. -/

theorem isDigit_of_mem_signs {byte : UInt8} (sign : byte ∈ signs) : isDigit byte = false := by
  have all : ∀ byte ∈ signs, isDigit byte = false := by decide +kernel
  exact all byte sign

theorem isBlank_of_mem_signs {byte : UInt8} (sign : byte ∈ signs) : isBlank byte = false := by
  have all : ∀ byte ∈ signs, isBlank byte = false := by decide +kernel
  exact all byte sign

theorem not_mem_signs_of_isDigit {byte : UInt8} (digit : isDigit byte = true) :
    byte ∉ signs := by
  intro sign
  rw [isDigit_of_mem_signs sign] at digit
  contradiction

theorem minus_mem_signs : Ascii.minus ∈ signs := by
  decide

/-- A byte of its own for every operator. -/
theorem exists_of_mem_operators {text : Bytes} {kind : Kind}
    (entry : (text, kind) ∈ operators) :
    ∃ byte, text = [byte] ∧ byte ∈ signs ∧ Kind.ofOperator? byte = some kind := by
  have all : ∀ entry ∈ operators,
      ∃ byte ∈ signs, entry.1 = [byte] ∧ Kind.ofOperator? byte = some entry.2 := by
    decide
  obtain ⟨byte, sign, single, operator⟩ := all (text, kind) entry
  exact ⟨byte, single, sign, operator⟩

theorem ofOperator?_eq_none {byte : UInt8} (other : byte ∉ signs) :
    Kind.ofOperator? byte = none := by
  unfold Kind.ofOperator?
  split
  case h_7 => rfl
  all_goals exact absurd (by decide) other

theorem mem_operators_or_minus {byte : UInt8} (sign : byte ∈ signs) :
    byte = Ascii.minus ∨ ∃ kind, ([byte], kind) ∈ operators := by
  have all : ∀ byte ∈ signs,
      byte = Ascii.minus ∨ ∃ entry ∈ operators, entry.1 = [byte] := by
    decide +kernel
  rcases all byte sign with equal | ⟨⟨text, kind⟩, entry, rfl⟩
  · exact .inl equal
  · exact .inr ⟨kind, entry⟩

/-- The first byte of a number is a digit, or a minus sign in front of more. -/
theorem IsNumber.exists_cons {text : Bytes} (number : IsNumber text) :
    ∃ first tail, text = first :: tail ∧
      (isDigit first = true ∨ first = Ascii.minus ∧ tail ≠ []) := by
  have integer : ∀ whole suffix, IsInteger whole →
      ∃ first tail, whole ++ suffix = first :: tail ∧
        (isDigit first = true ∨ first = Ascii.minus ∧ tail ≠ []) := by
    rintro whole suffix ⟨digits, decimals, rfl | rfl⟩
    · obtain ⟨first, tail, rfl, digit⟩ := decimals.exists_cons
      exact ⟨first, tail ++ suffix, rfl, .inl digit⟩
    · exact ⟨Ascii.minus, digits ++ suffix, rfl, .inr ⟨rfl, by simp [decimals.1]⟩⟩
  obtain whole | ⟨whole, digits, isWhole, _, rfl⟩ := number
  · simpa using integer text [] whole
  · exact integer whole _ isWhole

/-! Reading numbers. -/

theorem takeFraction_eq_nil {rest : Bytes}
    (plain : ∀ tail, rest = Ascii.dot :: tail → startsWithDigit tail = false) :
    takeFraction rest = [] := by
  unfold takeFraction
  split
  · next tail => simp [plain tail rfl]
  · rfl

theorem takeFraction_append {digits rest : Bytes} (decimals : IsDigits digits)
    (stops : startsWithDigit rest = false) :
    takeFraction (Ascii.dot :: (digits ++ rest)) = Ascii.dot :: digits := by
  have run := takeWhile_run decimals.2 (startsWithDigit_eq_false_iff.mp stops)
  change (if startsWithDigit (digits ++ rest) then
    Ascii.dot :: (digits ++ rest).takeWhile isDigit else []) = _
  rw [if_pos (decimals.startsWithDigit_append rest), run]

/-- The digits and the point of a number in front of a rest that does not go on with it. -/
theorem takeDecimal_append {digits fraction rest : Bytes} (decimals : IsDigits digits)
    (stops : startsWithDigit (fraction ++ rest) = false)
    (point : takeFraction (fraction ++ rest) = fraction) :
    takeDecimal (digits ++ (fraction ++ rest)) = digits ++ fraction := by
  rw [takeDecimal, takeWhile_run decimals.2 (startsWithDigit_eq_false_iff.mp stops),
    dropWhile_run decimals.2 (startsWithDigit_eq_false_iff.mp stops), point]

namespace Lexeme

theorem read_minus (rest : Bytes) :
    read Ascii.minus rest =
      if startsWithDigit rest then ⟨some .number, Ascii.minus :: takeDecimal rest⟩
      else ⟨some .minus, [Ascii.minus]⟩ :=
  rfl

theorem read_digit {first : UInt8} (digit : isDigit first = true) (rest : Bytes) :
    read first rest = ⟨some .number, takeDecimal (first :: rest)⟩ := by
  have other := not_mem_signs_of_isDigit digit
  have notMinus : first ≠ Ascii.minus := fun equal => other (equal ▸ minus_mem_signs)
  simp [read, ofOperator?_eq_none other, notMinus, digit]

theorem read_word {first : UInt8} (other : first ∉ signs) (noDigit : isDigit first = false)
    (rest : Bytes) :
    read first rest =
      ⟨Kind.ofKeyword? (first :: rest.takeWhile isWordByte),
        first :: rest.takeWhile isWordByte⟩ := by
  have notMinus : first ≠ Ascii.minus := fun equal => other (equal ▸ minus_mem_signs)
  simp [read, ofOperator?_eq_none other, notMinus, noDigit]

/-- A number is read whole if its point and fraction are what follows its digits. -/
theorem read_number (fraction : Bytes) {text digits rest : Bytes} (decimals : IsDigits digits)
    (signed : text = digits ∨ text = Ascii.minus :: digits)
    (stops : startsWithDigit (fraction ++ rest) = false)
    (point : takeFraction (fraction ++ rest) = fraction) :
    ∃ first tail, text ++ fraction ++ rest = first :: tail ∧ isBlank first = false ∧
      read first tail = ⟨some .number, text ++ fraction⟩ := by
  have decimal := takeDecimal_append decimals stops point
  rcases signed with rfl | rfl
  · obtain ⟨first, tail, rfl, digit⟩ := decimals.exists_cons
    refine ⟨first, tail ++ (fraction ++ rest), by simp, isBlank_eq_false_of_isDigit digit, ?_⟩
    rw [read_digit digit]
    exact congrArg _ decimal
  · refine ⟨Ascii.minus, digits ++ (fraction ++ rest), by simp, by decide, ?_⟩
    rw [read_minus, if_pos (decimals.startsWithDigit_append _), decimal]
    rfl

/-- The reader finds the lexeme that fits a shape, with its kind. -/
theorem read_of_fits {shape : Shape} {lexeme rest : Bytes} (fits : shape.Fits lexeme rest) :
    ∃ first tail, lexeme ++ rest = first :: tail ∧ isBlank first = false ∧
      read first tail = ⟨shape.kind? lexeme, lexeme⟩ := by
  cases shape with
  | operator kind =>
      obtain ⟨byte, rfl, sign, operator⟩ := exists_of_mem_operators fits
      refine ⟨byte, rest, rfl, isBlank_of_mem_signs sign, ?_⟩
      simp [read, operator, Shape.kind?]
  | minus =>
      obtain ⟨rfl, stops⟩ := fits
      refine ⟨Ascii.minus, rest, rfl, by decide, ?_⟩
      rw [read_minus, stops]
      rfl
  | number =>
      obtain ⟨stops, ⟨text, decimals, ⟨digits, whole, signed⟩, fraction, rfl⟩ |
        ⟨⟨digits, whole, signed⟩, plain⟩⟩ := fits
      · exact read_number (Ascii.dot :: decimals) whole signed rfl
          (takeFraction_append fraction stops)
      · obtain ⟨first, tail, split, notBlank, found⟩ :=
          read_number [] whole signed stops (takeFraction_eq_nil plain)
        rw [List.append_nil] at split found
        exact ⟨first, tail, split, notBlank, found⟩
  | word =>
      obtain ⟨⟨⟨first, tail, rfl, other⟩, inside⟩, ending⟩ := fits
      obtain ⟨noDigit, notBlank⟩ := inside first (by simp)
      refine ⟨first, tail ++ rest, rfl, notBlank, ?_⟩
      have run : (tail ++ rest).takeWhile isWordByte = tail := by
        apply takeWhile_run
        · intro byte member
          simp [isWordByte, inside byte (by simp [member])]
        · rintro byte after rfl
          rcases ending byte after rfl with digit | blank
          · simp [isWordByte, digit]
          · simp [isWordByte, blank]
      rw [read_word other noDigit, run]
      rfl

end Lexeme

namespace Shape

/-- A number begins every input that begins with a digit, or with a minus sign and a digit. -/
private theorem exists_fits_number {digits rest : Bytes} (decimals : IsDigits digits)
    {text : Bytes} (signed : text = digits ∨ text = Ascii.minus :: digits)
    (stops : startsWithDigit rest = false) :
    ∃ lexeme after, text ++ rest = lexeme ++ after ∧ number.Fits lexeme after := by
  have integer : IsInteger text := ⟨digits, decimals, signed⟩
  by_cases point : ∃ tail, rest = Ascii.dot :: tail ∧ startsWithDigit tail = true
  · obtain ⟨tail, rfl, digit⟩ := point
    obtain ⟨run, after, rfl, inside, ends⟩ := exists_run isDigit tail
    have noDigit : startsWithDigit after = false := startsWithDigit_eq_false_iff.mpr ends
    have fraction : IsDigits run := by
      refine ⟨?_, inside⟩
      rintro rfl
      rw [List.nil_append, noDigit] at digit
      contradiction
    exact ⟨text ++ Ascii.dot :: run, after, by simp, noDigit,
      .inl ⟨text, run, integer, fraction, rfl⟩⟩
  · refine ⟨text, rest, rfl, stops, .inr ⟨integer, ?_⟩⟩
    intro tail equal
    cases digit : startsWithDigit tail with
    | false => rfl
    | true => exact absurd ⟨tail, equal, digit⟩ point

/-- Every input that does not begin with a blank begins with a lexeme. -/
theorem exists_fits {first : UInt8} (rest : Bytes) (notBlank : isBlank first = false) :
    ∃ (shape : Shape) (lexeme after : Bytes),
      first :: rest = lexeme ++ after ∧ shape.Fits lexeme after := by
  by_cases sign : first ∈ signs
  · rcases mem_operators_or_minus sign with rfl | ⟨kind, entry⟩
    · obtain ⟨run, after, rfl, inside, stops⟩ := exists_run isDigit rest
      cases run with
      | nil =>
          exact ⟨minus, [Ascii.minus], after, rfl, rfl, startsWithDigit_eq_false_iff.mpr stops⟩
      | cons byte run =>
          exact ⟨number, exists_fits_number ⟨by simp, inside⟩ (.inr rfl)
            (startsWithDigit_eq_false_iff.mpr stops)⟩
    · exact ⟨operator kind, [first], rest, rfl, entry⟩
  · cases digit : isDigit first with
    | true =>
        obtain ⟨run, after, rfl, inside, stops⟩ := exists_run isDigit rest
        exact ⟨number, exists_fits_number (.cons digit inside) (.inl rfl)
          (startsWithDigit_eq_false_iff.mpr stops)⟩
    | false =>
        obtain ⟨run, after, rfl, inside, stops⟩ := exists_run isWordByte rest
        refine ⟨word, first :: run, after, rfl, ⟨⟨first, run, rfl, sign⟩, ?_⟩, ?_⟩
        · intro byte member
          rcases List.mem_cons.mp member with rfl | member
          · exact ⟨digit, notBlank⟩
          · simpa [isWordByte] using inside byte member
        · intro byte tail equal
          have outside := stops byte tail equal
          cases blank : isBlank byte with
          | true => exact .inr rfl
          | false => simpa [isWordByte, blank] using outside

theorem isNumber_of_fits {lexeme rest : Bytes} (fits : number.Fits lexeme rest) :
    IsNumber lexeme := by
  obtain ⟨_, fraction | ⟨integer, _⟩⟩ := fits
  · exact .inr fraction
  · exact .inl integer

/-- The shape that the first byte of a lexeme shows. -/
private def ofLexeme : Bytes → Shape
  | [] => word
  | first :: rest =>
      match Kind.ofOperator? first with
      | some kind => operator kind
      | none =>
          if first = Ascii.minus then if rest = [] then minus else number
          else if isDigit first then number
          else word

private theorem ofLexeme_of_isNumber {lexeme : Bytes} (isNumber : IsNumber lexeme) :
    ofLexeme lexeme = number := by
  obtain ⟨first, tail, rfl, digit | ⟨rfl, more⟩⟩ := isNumber.exists_cons
  · have other := not_mem_signs_of_isDigit digit
    have notMinus : first ≠ Ascii.minus := fun equal => other (equal ▸ minus_mem_signs)
    simp [ofLexeme, ofOperator?_eq_none other, notMinus, digit]
  · change (if tail = [] then minus else number) = number
    rw [if_neg more]

private theorem eq_ofLexeme {shape : Shape} {lexeme rest : Bytes}
    (fits : shape.Fits lexeme rest) : shape = ofLexeme lexeme := by
  cases shape with
  | operator kind =>
      obtain ⟨byte, rfl, _, found⟩ := exists_of_mem_operators fits
      simp [ofLexeme, found]
  | minus =>
      obtain ⟨rfl, _⟩ := fits
      rfl
  | number => exact (ofLexeme_of_isNumber (isNumber_of_fits fits)).symm
  | word =>
      obtain ⟨⟨⟨first, tail, rfl, other⟩, inside⟩, _⟩ := fits
      have notMinus : first ≠ Ascii.minus := fun equal => other (equal ▸ minus_mem_signs)
      simp [ofLexeme, ofOperator?_eq_none other, notMinus, inside first (by simp)]

theorem isNumber_iff_of_fits {shape : Shape} {lexeme rest : Bytes}
    (fits : shape.Fits lexeme rest) : IsNumber lexeme ↔ shape = number := by
  constructor
  · intro isNumber
    rw [eq_ofLexeme fits, ofLexeme_of_isNumber isNumber]
  · rintro rfl
    exact isNumber_of_fits fits

/-- No input begins with two lexemes, and no lexeme has two shapes. -/
theorem fits_unique {shape other : Shape} {lexeme rest text after : Bytes}
    (fits : shape.Fits lexeme rest) (fitsToo : other.Fits text after)
    (same : lexeme ++ rest = text ++ after) :
    shape = other ∧ lexeme = text ∧ rest = after := by
  obtain ⟨first, tail, split, _, found⟩ := Lexeme.read_of_fits fits
  obtain ⟨firstToo, tailToo, splitToo, _, foundToo⟩ := Lexeme.read_of_fits fitsToo
  have start : first :: tail = firstToo :: tailToo := by
    rw [← split, same, splitToo]
  obtain ⟨rfl, rfl⟩ := List.cons.inj start
  have texts : lexeme = text := congrArg Lexeme.text (found.symm.trans foundToo)
  subst texts
  exact ⟨(eq_ofLexeme fits).trans (eq_ofLexeme fitsToo).symm, rfl,
    List.append_cancel_left same⟩

end Shape

end Rpn.Token

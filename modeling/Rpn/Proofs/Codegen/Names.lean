import Rpn.Codegen.Symbols
import Rpn.Proofs.Assembly.RoundTrip

/-! The names of generated code can be told apart: a literal is found from its symbol, and an index
from its local labels. -/

namespace Rpn.Codegen

open Assembly Token

/-! Constants. -/

/-- What follows the sign of a number. -/
def IsMagnitude (text : Bytes) : Prop :=
  startsWithDigit text = true ∧ ∀ byte ∈ text, isDigit byte = true ∨ byte = Ascii.dot

theorem isMagnitude_of_isDigits {digits : Bytes} (decimals : IsDigits digits) :
    IsMagnitude digits :=
  ⟨by simpa using decimals.startsWithDigit_append [], fun byte member =>
    .inl (decimals.2 byte member)⟩

theorem isMagnitude_fraction {integer digits : Bytes} (whole : IsDigits integer)
    (decimals : IsDigits digits) : IsMagnitude (integer ++ Ascii.dot :: digits) := by
  refine ⟨whole.startsWithDigit_append _, fun byte member => ?_⟩
  rcases List.mem_append.mp member with member | member
  · exact .inl (whole.2 byte member)
  · rcases List.mem_cons.mp member with rfl | member
    · exact .inr rfl
    · exact .inl (decimals.2 byte member)

theorem exists_magnitude {literal : Bytes} (number : IsNumber literal) :
    ∃ magnitude, IsMagnitude magnitude ∧
      (literal = magnitude ∨ literal = Ascii.minus :: magnitude) := by
  rcases number with
    ⟨digits, decimals, written⟩ | ⟨_, digits, ⟨integer, whole, written⟩, decimals, rfl⟩
  · exact ⟨digits, isMagnitude_of_isDigits decimals, written⟩
  · refine ⟨integer ++ Ascii.dot :: digits, isMagnitude_fraction whole decimals, ?_⟩
    rcases written with rfl | rfl
    · exact .inl rfl
    · exact .inr rfl

theorem literalByte_of_isDigit {byte : UInt8} (digit : isDigit byte = true) :
    literalByte byte = [byte] := by
  have notDot : byte ≠ Ascii.dot := by
    rintro rfl
    cases digit
  have notMinus : byte ≠ Ascii.minus := by
    rintro rfl
    cases digit
  simp [literalByte, notDot, notMinus]

theorem mem_flatMap_literalByte {magnitude : Bytes} (shape : IsMagnitude magnitude) {byte : UInt8}
    (member : byte ∈ magnitude.flatMap literalByte) :
    isDigit byte = true ∨ byte = Ascii.underscore := by
  obtain ⟨source, sourceMember, inside⟩ := List.mem_flatMap.mp member
  rcases shape.2 source sourceMember with digit | rfl
  · rw [literalByte_of_isDigit digit] at inside
    rw [List.mem_singleton.mp inside]
    exact .inl digit
  · exact .inr (List.mem_singleton.mp inside)

/-- The byte of a literal that a byte of its symbol stands for. -/
def restoreByte (byte : UInt8) : UInt8 :=
  if byte = Ascii.underscore then Ascii.dot else byte

theorem map_restoreByte {magnitude : Bytes}
    (inside : ∀ byte ∈ magnitude, isDigit byte = true ∨ byte = Ascii.dot) :
    (magnitude.flatMap literalByte).map restoreByte = magnitude := by
  induction magnitude with
  | nil => rfl
  | cons byte rest induction =>
      have later := induction fun other member => inside other (List.mem_cons_of_mem _ member)
      rw [List.flatMap_cons, List.map_append, later]
      rcases inside byte (by simp) with digit | rfl
      · have notUnderscore : byte ≠ Ascii.underscore := by
          rintro rfl
          cases digit
        simp [literalByte_of_isDigit digit, restoreByte, notUnderscore]
      · rfl

/-- The literal that a symbol was made from. -/
def constantLiteral (symbol : Symbol) : Bytes :=
  match after? (ascii "const_neg_") symbol with
  | some magnitude => Ascii.minus :: magnitude.map restoreByte
  | none => (symbol.drop (ascii "const_").length).map restoreByte

theorem constantSymbol_magnitude {magnitude : Bytes} (shape : IsMagnitude magnitude) :
    constantSymbol magnitude = ascii "const_" ++ magnitude.flatMap literalByte := by
  unfold constantSymbol
  split
  · exact absurd shape.1 Bool.false_ne_true
  · rfl

theorem constantSymbol_minus (magnitude : Bytes) :
    constantSymbol (Ascii.minus :: magnitude) =
      ascii "const_neg_" ++ magnitude.flatMap literalByte :=
  rfl

theorem constantLiteral_constantSymbol {literal : Bytes} (number : IsNumber literal) :
    constantLiteral (constantSymbol literal) = literal := by
  obtain ⟨magnitude, shape, rfl | rfl⟩ := exists_magnitude number
  · -- Only a negative literal has the letter of its word in the symbol.
    have noLetter : 103 ∉ ascii "const_" ++ literal.flatMap literalByte := by
      refine List.not_mem_append (by decide) fun member => ?_
      exact absurd (mem_flatMap_literalByte shape member) (by decide)
    rw [constantSymbol_magnitude shape, constantLiteral, after?_eq_none (by decide) noLetter]
    simp only [List.drop_left, map_restoreByte shape.2]
  · rw [constantSymbol_minus, constantLiteral, after?_append]
    simp only [map_restoreByte shape.2]

/-- Different numbers have different symbols. -/
theorem constantSymbol_injective {left right : Bytes} (leftNumber : IsNumber left)
    (rightNumber : IsNumber right) (same : constantSymbol left = constantSymbol right) :
    left = right := by
  rw [← constantLiteral_constantSymbol leftNumber, same,
    constantLiteral_constantSymbol rightNumber]

theorem head?_constantSymbol (literal : Bytes) : (constantSymbol literal).head? = some 99 := by
  unfold constantSymbol
  split <;> rfl

theorem isSymbol_append {start rest : Bytes} (valid : isSymbol start = true)
    (inside : ∀ byte ∈ rest, isSymbolByte byte = true) : isSymbol (start ++ rest) = true := by
  obtain ⟨first, others, rfl, _, noDigit⟩ := exists_cons_of_isSymbol valid
  refine isSymbol_iff.mpr ⟨List.cons_ne_nil _ _, noDigit, fun byte member => ?_⟩
  rcases List.mem_append.mp member with member | member
  · exact (isSymbol_iff.mp valid).2.2 byte member
  · exact inside byte member

theorem isSymbolByte_of_isDigit {byte : UInt8} (digit : isDigit byte = true) :
    isSymbolByte byte = true := by
  simp [isSymbolByte, digit]

theorem isSymbol_constantSymbol {literal : Bytes} (number : IsNumber literal) :
    isSymbol (constantSymbol literal) = true := by
  obtain ⟨magnitude, shape, written⟩ := exists_magnitude number
  have inside : ∀ byte ∈ magnitude.flatMap literalByte, isSymbolByte byte = true := by
    intro byte member
    rcases mem_flatMap_literalByte shape member with digit | rfl
    · exact isSymbolByte_of_isDigit digit
    · decide
  rcases written with rfl | rfl
  · rw [constantSymbol_magnitude shape]
    exact isSymbol_append (by decide) inside
  · rw [constantSymbol_minus]
    exact isSymbol_append (by decide) inside

/-! Local labels. -/

/-- The index at the end of a label tells where its name ends. -/
theorem localLabel_injective {operation role other purpose : Bytes} {index position : Nat}
    (same : localLabel operation role index = localLabel other purpose position) :
    operation ++ ascii "_" ++ role = other ++ ascii "_" ++ purpose ∧ index = position := by
  have parts : ∀ (name : Bytes) (number : Nat),
      name ++ ascii "_" ++ .ofNat number = name ++ Ascii.underscore :: Bytes.ofNat number :=
    fun _ _ => List.append_assoc ..
  unfold localLabel at same
  rw [parts, parts] at same
  exact numeral_unique rfl same

theorem isSymbol_localLabel {operation role : Bytes} (index : Nat)
    (valid : isSymbol operation = true) (inside : ∀ byte ∈ role, isSymbolByte byte = true) :
    isSymbol (localLabel operation role index) = true := by
  unfold localLabel
  refine isSymbol_append (isSymbol_append (isSymbol_append (isSymbol_append valid ?_) inside) ?_) ?_
  · decide +kernel
  · decide +kernel
  · exact fun byte member => isSymbolByte_of_isDigit (Bytes.isDigit_of_mem_ofNat member)

/-- A label is no register. -/
theorem lookup_named_localLabel (operation role : Bytes) (index : Nat) :
    Operand.named.lookup (localLabel operation role index) = none := by
  have all : ∀ entry ∈ Operand.named, Ascii.underscore ∉ entry.1 := by decide
  have member : Ascii.underscore ∈ localLabel operation role index :=
    List.mem_append_left _ (List.mem_append_right _ (by decide))
  exact Operand.lookup_named_eq_none member all

theorem getLast?_localLabel (operation role : Bytes) (index : Nat) :
    (localLabel operation role index).getLast?.any isDigit = true := by
  have last := List.getLast?_eq_some_getLast (Bytes.ofNat_ne_nil index)
  rw [localLabel, List.getLast?_append, last]
  exact Bytes.isDigit_of_mem_ofNat (List.getLast_mem _)

end Rpn.Codegen

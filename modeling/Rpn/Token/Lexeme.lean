import Rpn.Token

/-! The text of a single token at the front of an input. -/

namespace Rpn.Token

def isWordByte (byte : UInt8) : Bool :=
  !isDigit byte && !isBlank byte

/-- A decimal point belongs to a number only if a digit follows it. -/
def takeFraction : Bytes → Bytes
  | Ascii.dot :: rest =>
      if startsWithDigit rest then Ascii.dot :: rest.takeWhile isDigit else []
  | _ => []

/-- The longest unsigned decimal at the front of an input. -/
def takeDecimal (input : Bytes) : Bytes :=
  input.takeWhile isDigit ++ takeFraction (input.dropWhile isDigit)

/-- The text of a token with its kind, or without one when the text spells no token. -/
structure Lexeme where
  kind? : Option Kind
  text : Bytes
  deriving DecidableEq, Repr

namespace Lexeme

/-- The lexeme at the front of an input that begins with the byte `first`, which is no blank.
A minus sign directly before a digit belongs to the number. -/
def read (first : UInt8) (rest : Bytes) : Lexeme :=
  match Kind.ofOperator? first with
  | some kind => ⟨some kind, [first]⟩
  | none =>
      if first = Ascii.minus then
        if startsWithDigit rest then ⟨some .number, first :: takeDecimal rest⟩
        else ⟨some .minus, [first]⟩
      else if isDigit first then ⟨some .number, takeDecimal (first :: rest)⟩
      else
        let word := first :: rest.takeWhile isWordByte
        ⟨Kind.ofKeyword? word, word⟩

/-- The token that a lexeme becomes at a column.  Text that spells no token is described by the
literal of an invalid token. -/
def token (lexeme : Lexeme) (column : Nat) : Token :=
  match lexeme.kind? with
  | some kind => ⟨kind, lexeme.text, column⟩
  | none =>
      ⟨.invalid, ascii "Unknown token '" ++ lexeme.text ++ ascii "' at column " ++
        Bytes.ofNat column, column⟩

theorem text_ne_nil (first : UInt8) (rest : Bytes) : (read first rest).text ≠ [] := by
  unfold read
  split
  · simp
  · split
    · split <;> simp
    · split
      · next digit => simp [takeDecimal, digit]
      · simp

theorem text_length_pos (first : UInt8) (rest : Bytes) :
    0 < (read first rest).text.length :=
  List.length_pos_iff.mpr (text_ne_nil first rest)

end Lexeme

end Rpn.Token

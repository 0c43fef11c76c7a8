import Rpn.Token.Lexeme

/-! A scanner is a position in an input.  Asking it for a token gives the token and the scanner
after it; at the end of the input it gives the end token again and again. -/

namespace Rpn

structure Scanner where
  offset : Nat
  rest : Bytes
  deriving DecidableEq, Repr

namespace Scanner

def ofInput (input : Bytes) : Scanner :=
  ⟨0, input⟩

def advance (scanner : Scanner) (count : Nat) : Scanner :=
  ⟨scanner.offset + count, scanner.rest.drop count⟩

def skipBlanks (scanner : Scanner) : Scanner :=
  scanner.advance (scanner.rest.takeWhile isBlank).length

def next (scanner : Scanner) : Token × Scanner :=
  let start := scanner.skipBlanks
  match start.rest with
  | [] => (⟨.endOfInput, [], start.offset + 1⟩, start)
  | first :: rest =>
      let lexeme := Token.Lexeme.read first rest
      (lexeme.token (start.offset + 1), start.advance lexeme.text.length)

/-- Every token but the end token uses up some of the input. -/
theorem length_rest_next (scanner : Scanner) (more : scanner.next.1.kind ≠ .endOfInput) :
    scanner.next.2.rest.length < scanner.rest.length := by
  have skipped : scanner.skipBlanks.rest.length ≤ scanner.rest.length := by
    simp [skipBlanks, advance]
  unfold next at more ⊢
  cases start : scanner.skipBlanks.rest with
  | nil => simp [start] at more
  | cons first rest =>
      have positive := Token.Lexeme.text_length_pos first rest
      simp only [start, advance, List.length_drop, List.length_cons] at skipped ⊢
      omega

/-- All remaining tokens, the end token last. -/
def drain (scanner : Scanner) : List Token :=
  if scanner.next.1.kind = .endOfInput then [scanner.next.1]
  else scanner.next.1 :: scanner.next.2.drain
termination_by scanner.rest.length
decreasing_by exact length_rest_next scanner ‹_›

/-- The answers to `count` questions for the next token. -/
def take (scanner : Scanner) : Nat → List Token
  | 0 => []
  | count + 1 => scanner.next.1 :: scanner.next.2.take count

end Scanner

/-- The tokens of a text, the end token last. -/
def Token.scan (text : Bytes) : List Token :=
  (Scanner.ofInput text).drain

end Rpn

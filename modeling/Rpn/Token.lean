import Rpn.Bytes

/-! Tokens of the expression language: a kind, the text it was read from, and the column where
that text begins. -/

namespace Rpn

namespace Token

/-- Kinds of tokens.  `invalid` marks text that spells no token; `other` stands for a kind that
this language does not have and that no scanner produces. -/
inductive Kind where
  | number
  | plus
  | minus
  | times
  | divide
  | modulo
  | power
  | factorial
  | abs
  | cos
  | sin
  | sqrt
  | tan
  | dup
  | swap
  | e
  | pi
  | endOfInput
  | invalid
  | other
  deriving DecidableEq, Repr

namespace Kind

/-- The name of a kind in listings and messages. -/
def name : Kind → Bytes
  | number => ascii "NUMBER"
  | plus => ascii "PLUS"
  | minus => ascii "MINUS"
  | times => ascii "ASTERISK"
  | divide => ascii "SLASH"
  | modulo => ascii "MOD"
  | power => ascii "POWER"
  | factorial => ascii "FACTORIAL"
  | abs => ascii "ABS"
  | cos => ascii "COS"
  | sin => ascii "SIN"
  | sqrt => ascii "SQRT"
  | tan => ascii "TAN"
  | dup => ascii "DUP"
  | swap => ascii "SWAP"
  | e => ascii "E"
  | pi => ascii "PI"
  | endOfInput => ascii "END_OF_FILE"
  | invalid => ascii "ERROR"
  | other => ascii "UNKNOWN"

/-- The words of the language. -/
def keywords : List (Bytes × Kind) :=
  [ (ascii "abs", abs), (ascii "cos", cos), (ascii "dup", dup), (ascii "e", e),
    (ascii "factorial", factorial), (ascii "pi", pi), (ascii "sin", sin),
    (ascii "sqrt", sqrt), (ascii "swap", swap), (ascii "tan", tan) ]

def ofKeyword? (word : Bytes) : Option Kind :=
  keywords.lookup word

/-- The operators of one byte, apart from the minus sign, which may also begin a number. -/
def ofOperator? : UInt8 → Option Kind
  | Ascii.plus => some plus
  | Ascii.asterisk => some times
  | Ascii.slash => some divide
  | Ascii.percent => some modulo
  | Ascii.caret => some power
  | Ascii.exclamation => some factorial
  | _ => none

end Kind

end Token

/-- A token.  Column 0 means that the token was not read from a text. -/
structure Token where
  kind : Token.Kind
  literal : Bytes := []
  column : Nat := 0
  deriving DecidableEq, Repr

namespace Token

/-- Tokens agree when they have the same kind and literal, wherever they were read. -/
def agrees (left right : Token) : Bool :=
  left.kind == right.kind && left.literal == right.literal

def columnNote : Nat → Bytes
  | 0 => []
  | column => ascii ", column " ++ Bytes.ofNat column

def render (token : Token) : Bytes :=
  ascii "Token(" ++ token.kind.name ++ ascii ", \"" ++ token.literal ++ ascii "\"" ++
    columnNote token.column ++ ascii ")"

/-- One line per token. -/
def listing (tokens : List Token) : Bytes :=
  tokens.flatMap fun token => token.render.line

end Token

end Rpn

import Rpn.Assembly.Basic

/-! The names that generated code defines. -/

namespace Rpn.Codegen

open Assembly

def literalByte (byte : UInt8) : Bytes :=
  if byte = Ascii.dot then [Ascii.underscore]
  else if byte = Ascii.minus then []
  else [byte]

/-- The symbol of a literal: the sign becomes a word and the decimal point an underscore. -/
def constantSymbol : Bytes → Symbol
  | Ascii.minus :: digits => ascii "const_neg_" ++ digits.flatMap literalByte
  | digits => ascii "const_" ++ digits.flatMap literalByte

/-- A label that belongs to the operation at an index. -/
def localLabel (operation role : Bytes) (index : Nat) : Symbol :=
  operation ++ ascii "_" ++ role ++ ascii "_" ++ .ofNat index

/-! Cells: the two operands, an integer on its way to a double, and the number of entries on the
evaluation stack. -/

namespace Cell

def first : Symbol := ascii "arg_a"
def second : Symbol := ascii "arg_b"
def integer : Symbol := ascii "int_cell"
def depth : Symbol := ascii "depth"

end Cell

/-! Texts that the generated program prints. -/

namespace Message

def result : Symbol := ascii "fmt"
def zeroDivisor : Symbol := ascii "div_zero"
def overflow : Symbol := ascii "overflow"
def tooFew : Symbol := ascii "stack_err"
def tooMany : Symbol := ascii "stack_full"

end Message

/-! Where control goes when an operation fails. -/

namespace Handler

def zeroDivisor : Symbol := ascii "division_by_zero"
def overflow : Symbol := ascii "register_overflow"
def tooMany : Symbol := ascii "stack_too_full"
def tooFew : Symbol := ascii "stack_error"
def report : Symbol := ascii "print_msg_and_exit"

end Handler

def entry : Symbol := ascii "main"

end Rpn.Codegen

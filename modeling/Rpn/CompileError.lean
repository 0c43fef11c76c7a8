import Rpn.Token

/-! Why a text or a program cannot be compiled. -/

namespace Rpn

inductive CompileError where
  | unknownWord (description : Bytes)
  | emptyExpression
  | leadingToken (token : Token)
  | trailingNumber (token : Token)
  | unexpectedToken (token : Token)
  | missingValue (index : Nat)
  | unknownInstruction (index : Nat)
  deriving DecidableEq, Repr

namespace CompileError

def atColumn (column : Nat) (text : Bytes) : Bytes :=
  ascii "Error (column " ++ Bytes.ofNat column ++ ascii "): " ++ text

def message : CompileError → Bytes
  | unknownWord description => ascii "Error parsing input: " ++ description
  | emptyExpression => ascii "The input expression was empty"
  | leadingToken token =>
      atColumn token.column
        (ascii "the program must begin with a number, found '" ++ token.literal ++ ascii "'")
  | trailingNumber token =>
      atColumn token.column
        (ascii "the program ends with the number '" ++ token.literal ++
          ascii "', which no operator consumes")
  | unexpectedToken token =>
      atColumn token.column
        (ascii "unexpected " ++ token.kind.name ++ ascii " token '" ++ token.literal ++ ascii "'")
  | missingValue index =>
      ascii "PUSH instruction " ++ Bytes.ofNat index ++ ascii " has no value"
  | unknownInstruction index =>
      ascii "Unknown instruction at index " ++ Bytes.ofNat index

/-- The message as it is shown.  A literal may hold a NUL byte, and nothing from the first one on
is shown. -/
def report (error : CompileError) : Bytes :=
  error.message.untilNul

end CompileError

end Rpn

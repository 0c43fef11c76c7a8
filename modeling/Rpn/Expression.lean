import Rpn.CompileError
import Rpn.Token.Scanner

/-! Reading an expression: a text becomes the tokens of a reverse Polish program that begins with
a number and does not end with one that is left over. -/

namespace Rpn.Expression

/-- The named constants, written with six decimals. -/
def constant? : Token.Kind → Option Bytes
  | .pi => some (ascii "3.141593")
  | .e => some (ascii "2.718282")
  | _ => none

/-- A named constant becomes a number in the same place. -/
def resolve (token : Token) : Token :=
  match constant? token.kind with
  | some literal => { token with kind := .number, literal }
  | none => token

/-- The resolved tokens up to the end of the input.  Scanning stops at the first unknown word. -/
def collect (scanner : Scanner) : Except CompileError (List Token) :=
  if scanner.next.1.kind = .endOfInput then .ok []
  else if scanner.next.1.kind = .invalid then .error (.unknownWord scanner.next.1.literal)
  else (collect scanner.next.2).map (resolve scanner.next.1 :: ·)
termination_by scanner.rest.length
decreasing_by exact scanner.length_rest_next ‹_›

/-- The rules on the first and the last token of an expression. -/
def validate (tokens : List Token) : Except CompileError (List Token) :=
  match tokens with
  | [] => .error .emptyExpression
  | first :: others =>
      if first.kind ≠ .number then .error (.leadingToken first)
      else
        match others.getLast? with
        | none => .ok tokens
        | some last =>
            if last.kind = .number then .error (.trailingNumber last) else .ok tokens

def read (text : Bytes) : Except CompileError (List Token) :=
  collect (Scanner.ofInput text) >>= validate

end Rpn.Expression

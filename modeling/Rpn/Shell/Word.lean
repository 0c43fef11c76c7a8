import Rpn.Bytes

/-! Words of the shell language, before their expansion.  Part of the test environment, which the
results on quoted words speak of. -/

namespace Rpn.Shell

/-- How the case of letters is changed. -/
inductive Casing where
  | upper
  | lower
  | swapped
  deriving DecidableEq, Repr

/-- What is done with the value of a parameter.  `colon` asks to treat an empty value like none.
The operations from `indirect` on belong to the extended language. -/
inductive Operation where
  | value
  | length
  | default (colon : Bool)
  | assign (colon : Bool)
  | alternative (colon : Bool)
  | demand (colon : Bool)
  | trimFront (longest : Bool)
  | trimBack (longest : Bool)
  | unknown
  | indirect
  | keys
  | namesWith
  | substring
  | replace (all front back : Bool)
  | recase (casing : Casing) (all : Bool)
  | transform (letter : UInt8)
  deriving DecidableEq, Repr

/-- A part of a word.  What is quoted is never split into fields nor matched against file
names.  A command substitution keeps the text between its brackets. -/
inductive Piece where
  | text (quoted : Bool) (content : Bytes)
  | parameter (quoted : Bool) (name : Bytes) (index : List Piece) (operation : Operation)
      (operands : List (List Piece))
  | command (quoted : Bool) (source : Bytes)
  | arithmetic (quoted : Bool) (expression : List Piece)
  | process (reading : Bool) (source : Bytes)
  | elements (words : List (List Piece))

abbrev Word := List Piece

namespace Word

/-- Text joins the text before it when both are quoted or both are not. -/
def addText (quoted : Bool) (content : Bytes) : Word → Word
  | [] => [.text quoted content]
  | [.text before old] =>
      if before = quoted then [.text before (old ++ content)]
      else [.text before old, .text quoted content]
  | piece :: rest => piece :: addText quoted content rest

/-- The text of a word without quotes and substitutions. -/
def plain? : Word → Option Bytes
  | [.text false content] => some content
  | _ => none

/-- The text of a word and whether a part of it is quoted, if it has no substitutions. -/
def literal? : Word → Option (Bytes × Bool)
  | [] => some ([], false)
  | .text quoted content :: rest => do
      let (others, more) ← literal? rest
      return (content ++ others, quoted || more)
  | _ => none

end Word

/-! Names of variables and functions. -/

def isNameStart (byte : UInt8) : Bool :=
  byte == Ascii.underscore || (65 ≤ byte && byte ≤ 90) || (97 ≤ byte && byte ≤ 122)

def isNameByte (byte : UInt8) : Bool :=
  isNameStart byte || isDigit byte

def isName : Bytes → Bool
  | [] => false
  | first :: rest => isNameStart first && rest.all isNameByte

/-- The parameters that are named by a mark. -/
def isSpecialParameter (byte : UInt8) : Bool :=
  (ascii "@*#?-$!").contains byte

end Rpn.Shell

import Rpn.Shell.Word

/-! Commands of the shell language.  Part of the test environment. -/

namespace Rpn.Shell

/-- What a redirection does.  A here-document is kept by its number in the source. -/
inductive Redirect where
  | input
  | output
  | append
  | clobber
  | both
  | duplicateInput
  | duplicateOutput
  | document (number : Nat)
  | text
  | outputAndErrors (append : Bool)
  deriving DecidableEq, Repr

/-- A redirection of a descriptor by its number, or of a free one whose number a variable is to
hold. -/
structure Redirection where
  number : Option Nat
  holder : Option Bytes := none
  kind : Redirect
  target : Word

/-- What a command assigns: a value to a name or to an element of an array, in place of the old
value or after it. -/
structure Assignment where
  name : Bytes
  index : Word := []
  adding : Bool := false
  value : Word

inductive BranchEnd where
  | leave
  | enterNext
  | testNext
  deriving DecidableEq, Repr

inductive Condition where
  | word (word : Word)
  | unary (operator : Bytes) (operand : Word)
  | binary (left : Word) (operator : Bytes) (right : Word)
  | negate (condition : Condition)
  | both (left right : Condition)
  | either (left right : Condition)

inductive Command where
  | skip
  | simple (line : Nat) (assignments : List Assignment) (words : List Word)
      (redirections : List Redirection)
  | redirect (body : Command) (redirections : List Redirection)
  | pipe (commands : List Command)
  | negate (body : Command)
  | both (left right : Command)
  | either (left right : Command)
  | sequence (left right : Command)
  | background (body : Command)
  | subshell (body : Command)
  | conditional (test yes no : Command)
  | loop (expected : Bool) (test body : Command)
  | each (name : Bytes) (items : Option (List Word)) (body : Command)
  | choose (subject : Word) (branches : List (List Word × Command × BranchEnd))
  | define (name : Bytes) (body : Command)
  | arithmetic (expression : Word)
  | count (first test next : Word) (body : Command)
  | condition (condition : Condition)
  | group (body : Command)
  | select (name : Bytes) (items : Option (List Word)) (body : Command)
  | time (portable : Bool) (body : Command)
  | cooperate (name : Bytes) (body : Command)

end Rpn.Shell

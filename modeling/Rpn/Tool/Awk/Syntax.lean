import Rpn.Text.Regex

/-! Programs of the language that works on records and fields.  Only serves the test environment. -/

namespace Rpn.Tool.Awk

open Text

inductive Operator where
  | add
  | subtract
  | multiply
  | divide
  | modulo
  | power
  deriving DecidableEq

inductive Comparison where
  | less
  | lessOrEqual
  | equal
  | notEqual
  | greater
  | greaterOrEqual
  deriving DecidableEq

/-- Expressions.  `names` in a table may be several indexes.  `several` are expressions between
parentheses that stand for the arguments of a statement. -/
inductive Expression where
  | number (value : Float)
  | text (value : Bytes)
  | regex (matcher : Regex.Matcher)
  | name (name : Bytes)
  | element (table : Bytes) (index : List Expression)
  | field (index : Expression)
  | group (inner : Expression)
  | several (items : List Expression)
  | assign (operator : Option Operator) (target value : Expression)
  | choice (test yes no : Expression)
  | both (first second : Expression)
  | either (first second : Expression)
  | negation (inner : Expression)
  | signed (negative : Bool) (inner : Expression)
  | arithmetic (operator : Operator) (first second : Expression)
  | comparison (comparison : Comparison) (first second : Expression)
  | matching (negated : Bool) (subject pattern : Expression)
  | contains (index : List Expression) (table : Bytes)
  | concatenation (first second : Expression)
  | step (before : Bool) (up : Bool) (target : Expression)
  | call (name : Bytes) (arguments : List Expression)
  | builtin (name : Bytes) (arguments : List Expression)
  | readMain (target : Option Expression)
  | readFile (target : Option Expression) (file : Expression)
  | readCommand (target : Option Expression) (command : Expression)

instance : Inhabited Expression := ⟨.text []⟩

inductive Sink where
  | file
  | append
  | command
  deriving DecidableEq

inductive Statement where
  | nothing
  | block (statements : List Statement)
  | evaluate (expression : Expression)
  | print (arguments : List Expression) (sink : Option (Sink × Expression))
  | format (arguments : List Expression) (sink : Option (Sink × Expression))
  | choose (test : Expression) (yes no : Statement)
  | loop (test : Expression) (body : Statement)
  | loopAfter (body : Statement) (test : Expression)
  | count (start : Statement) (test : Option Expression) (step body : Statement)
  | each (name table : Bytes) (body : Statement)
  | delete (table : Bytes) (index : Option (List Expression))
  | next
  | nextFile
  | exit (status : Option Expression)
  | giveBack (value : Option Expression)
  | leave
  | again

instance : Inhabited Statement := ⟨.nothing⟩

inductive Condition where
  | begin
  | finish
  | always
  | test (expression : Expression)
  | range (first last : Expression)

/-- A rule; without a body it prints the record. -/
structure Rule where
  condition : Condition
  body : Option Statement

structure Function where
  name : Bytes
  parameters : List Bytes
  body : Statement

structure Program where
  rules : List Rule := []
  functions : List Function := []

end Rpn.Tool.Awk

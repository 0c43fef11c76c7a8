import Rpn.Shell.Word.Reader

/-! Splitting shell text into words and operators.  Part of the test environment, which the results
on quoted words speak of. -/

namespace Rpn.Shell

/-- A redirection may carry a number that stands directly before it, or the name of a variable. -/
inductive Lexeme where
  | word (word : Word)
  | operator (symbol : Bytes)
  | redirection (number : Option Nat) (holder : Option Bytes) (symbol : Bytes)
  | lineEnd
  | ending

namespace Lexeme

/-- Operators and redirections, longer ones before their beginnings. -/
def symbols (extended : Bool) : List Bytes :=
  (if extended then
    ["&>>", ";;&", "<<<", "&>", ";&", "|&"].map ascii
  else []) ++
    ["<<-", "&&", "||", ";;", "<<", ">>", "<&", ">&", "<>", ">|", ";", "&", "|", "<", ">", "(",
      ")"].map ascii

/-- A name between braces directly before a redirection is that of a variable for its number. -/
def holderBefore? (extended : Bool) (word : Word) (rest : Bytes) : Option Bytes := do
  let text ← if extended then word.plain? else none
  let next ← rest.head?
  let name := (text.drop 1).dropLast
  if text.head? = some Ascii.openBrace ∧ text.getLast? = some Ascii.closeBrace ∧ isName name ∧
      (next = Ascii.less ∨ next = Ascii.greater) then
    some name
  else none

def isRedirection (symbol : Bytes) : Bool :=
  symbol.head? == some Ascii.less || symbol.head? == some Ascii.greater ||
    (ascii "&>").isPrefixOf symbol

/-- Drop what may stand before a lexeme: blanks, escaped line ends and comments. -/
def skipBlanks : Nat → Bytes → Bytes
  | 0, input => input
  | bound + 1, input =>
      match input with
      | Ascii.space :: rest | Ascii.tab :: rest => skipBlanks bound rest
      | Ascii.backslash :: Ascii.newline :: rest => skipBlanks bound rest
      | Ascii.hash :: rest => rest.dropWhile (· != Ascii.newline)
      | input => input

/-- Digits directly before a redirection are its number: one of them, or any number of them in the
extended language. -/
def numberBefore? (extended : Bool) (word : Word) (rest : Bytes) : Option Nat := do
  let digits ← word.plain?
  let number ← Bytes.toNat? digits
  let next ← rest.head?
  if (next = Ascii.less ∨ next = Ascii.greater) ∧ (extended ∨ digits.length = 1) then some number
  else none

/-- What follows a symbol at the front of a text, in which lines may be joined. -/
def after? : Bytes → Bytes → Option Bytes
  | [], input => some input
  | byte :: symbol, input =>
      match Word.joined input with
      | first :: rest => if first = byte then after? symbol rest else none
      | [] => none

/-- The symbol at the front of a text, and what follows it. -/
def symbol? (extended : Bool) (input : Bytes) : Option (Bytes × Bytes) :=
  (symbols extended).findSome? fun symbol => (after? symbol input).map (symbol, ·)

/-- The word at the front of a text, or the redirection that its number belongs to. -/
def nextWord (grammar : Grammar) (input : Bytes) : Except SyntaxFault (Lexeme × Bytes) := do
  let (found, rest) ← Word.read grammar input
  let number := numberBefore? grammar.extended found rest
  let holder := holderBefore? grammar.extended found rest
  match symbol? grammar.extended rest with
  | some (symbol, after) =>
      if number.isSome ∨ holder.isSome then return (.redirection number holder symbol, after)
      else return (.word found, rest)
  | none => return (.word found, rest)

/-- The first lexeme of a text. -/
def next (grammar : Grammar) (text : Bytes) : Except SyntaxFault (Lexeme × Bytes) := do
  let input := skipBlanks text.length text
  match input with
  | [] => return (.ending, [])
  | Ascii.newline :: rest => return (.lineEnd, rest)
  | first :: rest =>
      let substituted := grammar.extended && (first == Ascii.less || first == Ascii.greater) &&
        rest.head? == some Ascii.openParenthesis
      if substituted then
        let (source, rest) ← grammar.commandSource (rest.drop 1)
        return (.word [.process (first == Ascii.less) source], rest)
      else
        match symbol? grammar.extended input with
        | none => nextWord grammar input
        | some (symbol, rest) =>
            let lexeme := if isRedirection symbol then .redirection none none symbol
              else .operator symbol
            return (lexeme, rest)

/-- The first lexemes of a text, as many as the number says, and up to its end. -/
def scanFrom (grammar : Grammar) : Nat → Bytes → Except SyntaxFault (List Lexeme)
  | 0, _ => .ok []
  | bound + 1, text => do
      match ← next grammar text with
      | (.ending, _) => return []
      | (lexeme, rest) => return lexeme :: (← scanFrom grammar bound rest)

/-- All lexemes of a text. -/
def scan (grammar : Grammar) (text : Bytes) : Except SyntaxFault (List Lexeme) :=
  scanFrom grammar (text.length + 1) text

end Lexeme

end Rpn.Shell

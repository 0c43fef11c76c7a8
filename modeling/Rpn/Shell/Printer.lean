import Rpn.Shell.Command

/-! Commands as text, in the form in which functions are shown.  Part of the test environment. -/

namespace Rpn.Shell.Printer

def space : Bytes := ascii " "

def newLine (indent : Nat) : Bytes :=
  Ascii.newline :: List.replicate indent Ascii.space

def joined (between : Bytes) (texts : List Bytes) : Bytes :=
  (texts.intersperse between).flatten

/-! Words. -/

def escaped (text : Bytes) : Bytes :=
  text.flatMap fun byte =>
    if (ascii "\"\\$`").contains byte then [Ascii.backslash, byte] else [byte]

def isQuotedPiece : Piece → Bool
  | .text quoted _ | .parameter quoted _ _ _ _ | .command quoted _ | .arithmetic quoted _ => quoted
  | _ => false

def operationSign : Operation → Bytes × Bool
  | .value | .unknown => ([], false)
  | .length => (ascii "#", true)
  | .indirect | .keys | .namesWith => (ascii "!", true)
  | .default colon => (ascii (if colon then ":-" else "-"), false)
  | .assign colon => (ascii (if colon then ":=" else "="), false)
  | .alternative colon => (ascii (if colon then ":+" else "+"), false)
  | .demand colon => (ascii (if colon then ":?" else "?"), false)
  | .trimFront longest => (ascii (if longest then "##" else "#"), false)
  | .trimBack longest => (ascii (if longest then "%%" else "%"), false)
  | .substring => (ascii ":", false)
  | .replace all front back =>
      (ascii (if all then "//" else if front then "/#" else if back then "/%" else "/"), false)
  | .recase casing all =>
      let mark := match casing with
        | .upper => Ascii.caret
        | .lower => Ascii.comma
        | .swapped => Ascii.tilde
      (if all then [mark, mark] else [mark], false)
  | .transform letter => (Ascii.atSign :: [letter], false)

def operandGap : Operation → Bytes
  | .substring => ascii ":"
  | _ => ascii "/"

def piece : Nat → Piece → Bytes
  | 0, _ => []
  | bound + 1, found =>
      let word := fun (pieces : List Piece) => pieces.flatMap (piece bound)
      match found with
      | .text quoted content => if quoted then escaped content else content
      | .parameter _ name index operation operands =>
          match index, operation with
          | [], .value => Ascii.dollar :: name
          | index, operation =>
              let (sign, before) := operationSign operation
              let subscript := if index.isEmpty then [] else ascii "[" ++ word index ++ ascii "]"
              ascii "$\x7b" ++ (if before then sign else []) ++ name ++ subscript ++
                (if before then [] else sign) ++
                joined (operandGap operation) (operands.map word) ++ ascii "\x7d"
      | .command _ source => ascii "$(" ++ source ++ ascii ")"
      | .arithmetic _ expression => ascii "$((" ++ word expression ++ ascii "))"
      | .process reading source => ascii (if reading then "<(" else ">(") ++ source ++ ascii ")"
      | .elements words =>
          let shown := fun (found : Word) =>
            if found.any isQuotedPiece then ascii "\"" ++ word found ++ ascii "\"" else word found
          ascii "(" ++ joined space (words.map shown) ++ ascii ")"

def maximalDepth : Nat := 1000

def wordFrom : Nat → Word → Bytes
  | 0, _ => []
  | _, [] => []
  | bound + 1, first :: rest =>
      if isQuotedPiece first then
        let quoted := (first :: rest).takeWhile isQuotedPiece
        ascii "\"" ++ quoted.flatMap (piece maximalDepth) ++ ascii "\"" ++
          wordFrom bound ((first :: rest).drop quoted.length)
      else piece maximalDepth first ++ wordFrom bound rest

def word (found : Word) : Bytes :=
  wordFrom (found.length + 1) found

def assignment (found : Assignment) : Bytes :=
  let index := if found.index.isEmpty then [] else ascii "[" ++ word found.index ++ ascii "]"
  found.name ++ index ++ ascii (if found.adding then "+=" else "=") ++ word found.value

/-! Redirections. -/

def redirectionSign : Redirect → String
  | .input => "<"
  | .output => ">"
  | .append => ">>"
  | .clobber => ">|"
  | .both => "<>"
  | .duplicateInput => "<&"
  | .duplicateOutput => ">&"
  | .document _ => "<<"
  | .text => "<<<"
  | .outputAndErrors adding => if adding then "&>>" else "&>"

def redirection (found : Redirection) : Bytes :=
  let number := match found.kind, found.number with
    | _, some number => Bytes.ofNat number
    | .duplicateOutput, none => ascii "1"
    | .duplicateInput, none => ascii "0"
    | _, none => []
  let gap := match found.kind with
    | .duplicateInput | .duplicateOutput => []
    | _ => space
  number ++ ascii (redirectionSign found.kind) ++ gap ++ word found.target

/-! Conditions. -/

def condition : Condition → Bytes
  | .word found => word found
  | .unary operator operand => operator ++ space ++ word operand
  | .binary left operator right => word left ++ space ++ operator ++ space ++ word right
  | .negate inner => ascii "! " ++ condition inner
  | .both left right => condition left ++ ascii " && " ++ condition right
  | .either left right => condition left ++ ascii " || " ++ condition right

/-! Commands. -/

def items : Command → List Command
  | .sequence left right => items left ++ items right
  | command => [command]

def isBackground : Command → Bool
  | .background _ => true
  | _ => false

/-- Commands in order.  With `closed` there is a semicolon after the last one too. -/
def sequence (print : Command → Bytes) (indent : Nat) (closed : Bool) : List Command → Bytes
  | [] => []
  | [last] => print last ++ (if closed ∧ !isBackground last then ascii ";" else [])
  | first :: rest =>
      print first ++ (if isBackground first then space else Ascii.semicolon :: newLine indent) ++
        sequence print indent closed rest

def command : Nat → Nat → Command → Bytes
  | 0, _, _ => []
  | bound + 1, indent, found =>
      let inner := indent + 4
      let here := command bound indent
      let list := fun (closed : Bool) (indent : Nat) (body : Command) =>
        sequence (command bound indent) indent closed (items body)
      let block := fun (body : Command) => newLine inner ++ list true inner body ++ newLine indent
      let header := fun (body : Command) => joined (ascii "; ") ((items body).map here)
      let heading := fun (name : Bytes) (items : Option (List Word)) =>
        name ++ (match items with
          | some words => ascii " in" ++ words.flatMap fun found => space ++ word found
          | none => []) ++ Ascii.semicolon :: newLine indent ++ ascii "do"
      match found with
      | .skip => []
      | .simple _ assignments words redirections =>
          joined space (assignments.map assignment ++ words.map word ++
            redirections.map redirection)
      | .redirect body redirections =>
          joined space (here body :: redirections.map redirection)
      | .pipe commands => joined (ascii " | ") (commands.map here)
      | .negate body => ascii "! " ++ here body
      | .both left right => here left ++ ascii " && " ++ here right
      | .either left right => here left ++ ascii " || " ++ here right
      | .sequence _ _ => list false indent found
      | .background body => here body ++ ascii " &"
      | .subshell body => ascii "( " ++ list false indent body ++ ascii " )"
      | .group body =>
          ascii "\x7b " ++ newLine inner ++ list false inner body ++ newLine indent ++ ascii "\x7d"
      | .conditional test yes no =>
          ascii "if " ++ header test ++ ascii "; then" ++ block yes ++
            (match no with
            | .skip => []
            | no => ascii "else" ++ block no) ++ ascii "fi"
      | .loop expected test body =>
          ascii (if expected then "while " else "until ") ++ header test ++ ascii "; do" ++
            block body ++ ascii "done"
      | .each name items body =>
          ascii "for " ++ heading name items ++ block body ++ ascii "done"
      | .select name items body =>
          ascii "select " ++ heading name items ++ block body ++ ascii "done"
      | .count first test next body =>
          ascii "for ((" ++ joined (ascii "; ") ([first, test, next].map word) ++ ascii "))" ++
            newLine indent ++ ascii "do" ++ block body ++ ascii "done"
      | .choose subject branches =>
          ascii "case " ++ word subject ++ ascii " in " ++
            (branches.flatMap fun (patterns, body, ending) =>
              newLine inner ++ joined (ascii " | ") (patterns.map word) ++ ascii ")" ++
                (match body with
                | .skip => [Ascii.newline]
                | body => newLine (inner + 4) ++ list false (inner + 4) body) ++ newLine inner ++
                ascii (match ending with
                  | .leave => ";;"
                  | .enterNext => ";&"
                  | .testNext => ";;&")) ++ newLine indent ++ ascii "esac"
      | .define name body =>
          ascii "function " ++ name ++ ascii " () " ++ newLine indent ++
            command bound indent (asGroup body)
      | .arithmetic expression => ascii "((" ++ expression.flatMap (piece bound) ++ ascii "))"
      | .condition found => ascii "[[ " ++ condition found ++ ascii " ]]"
      | .time portable body => ascii (if portable then "time -p " else "time ") ++ here body
      | .cooperate name body => ascii "coproc " ++ name ++ space ++ here body
where
  asGroup : Command → Command
    | .group body => .group body
    | body => .group body

def maximalNesting : Nat := 1000

def function (name : Bytes) (body : Command) : Bytes :=
  Bytes.line (name ++ ascii " () " ++ Ascii.newline ::
    command maximalNesting 0 (command.asGroup body))

end Rpn.Shell.Printer

import Rpn.Codegen.File
import Rpn.Expression

/-! Compiling an expression, once or many times. -/

namespace Rpn

/-- What a successful compilation produces on its way to the assembly text. -/
structure Compilation where
  tokens : List Token
  program : Program
  assembly : Bytes

/-- Read, build and generate. -/
def compile (debug : Bool) (expression : Bytes) : Except CompileError Compilation := do
  let tokens ← Expression.read expression
  let program ← Program.ofTokens tokens
  let assembly ← Codegen.generate debug program
  return ⟨tokens, program, assembly⟩

/-- A session belongs to one expression and remembers the tokens and the program of its last
successful compilation. -/
structure Session where
  expression : Bytes
  debug : Bool := false
  tokens : List Token := []
  program : Program := .empty

namespace Session

def setDebug (session : Session) (debug : Bool) : Session :=
  { session with debug }

def instructions (session : Session) : List Instruction :=
  session.program.instructions

/-- Compile the expression of the session.  A failure changes nothing. -/
def compile (session : Session) : Except CompileError Bytes × Session :=
  match Rpn.compile session.debug session.expression with
  | .error error => (.error error, session)
  | .ok compilation =>
      (.ok compilation.assembly,
        { session with tokens := compilation.tokens, program := compilation.program })

end Session

end Rpn

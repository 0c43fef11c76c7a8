import Rpn.Bytes
import Rpn.ExitCode

/-! Options of the command line.  Arguments are taken one after the other into an options value,
and what they stored stays even when a later one is refused. -/

namespace Rpn

/-- Settings of a job.  `assemble` asks for an executable instead of the assembly text, and `run`
for its execution. -/
structure Options where
  showTokens : Bool := false
  showInstructions : Bool := false
  debug : Bool := false
  assemble : Bool := false
  run : Bool := false
  keepAssembly : Bool := false
  expression : Bytes := []
  outputName : Bytes := ascii "a.out"
  deriving DecidableEq, Repr

inductive OptionError where
  | missingName
  | unknownOption (argument : Bytes)
  | secondExpression (argument : Bytes)
  | noExpression
  deriving DecidableEq, Repr

namespace OptionError

def exitCode : OptionError → ExitCode
  | missingName | secondExpression _ => .usage
  | unknownOption _ => .unknownOption
  | noExpression => .noExpression

/-- What is written about an error before the usage.  A missing expression needs no words. -/
def message : OptionError → Bytes
  | missingName => (ascii "Error: --filename needs a value").line
  | unknownOption argument => (ascii "Error: unknown option " ++ argument).line
  | secondExpression argument =>
      (ascii "Error: expected a single expression, got a second one: " ++ argument).line
  | noExpression => []

end OptionError

namespace Options

/-- Options that stand alone. -/
inductive Flag where
  | debug
  | showTokens
  | showInstructions
  | assemble
  | run
  | keepAssembly
  deriving DecidableEq, Repr

namespace Flag

def spellings : List (Bytes × Flag) :=
  [ (ascii "--debug", debug), (ascii "--show-tokens", showTokens),
    (ascii "--show-ir", showInstructions), (ascii "--compile", assemble),
    (ascii "--run", run), (ascii "--save-asm", keepAssembly) ]

def ofArgument? (argument : Bytes) : Option Flag :=
  spellings.lookup argument

end Flag

def raise (options : Options) : Flag → Options
  | .debug => { options with debug := true }
  | .showTokens => { options with showTokens := true }
  | .showInstructions => { options with showInstructions := true }
  | .assemble => { options with assemble := true }
  | .run => { options with run := true }
  | .keepAssembly => { options with keepAssembly := true }

def nameOption : Bytes := ascii "--filename"

/-- Two dashes mark an option; a single one may begin an expression. -/
def isOption (argument : Bytes) : Bool :=
  (ascii "--").isPrefixOf argument

/-- The end of the arguments: there must be an expression, and running needs an executable. -/
def conclude (options : Options) : Option OptionError × Options :=
  if options.expression = [] then (some .noExpression, options)
  else (none, { options with assemble := options.assemble || options.run })

/-- Take arguments from left to right, up to the first that is refused. -/
def parse (options : Options) : List Bytes → Option OptionError × Options
  | [] => options.conclude
  | argument :: rest =>
      match Flag.ofArgument? argument with
      | some flag => (options.raise flag).parse rest
      | none =>
          if argument = nameOption then
            match rest with
            | [] => (some .missingName, options)
            | name :: rest => { options with outputName := name }.parse rest
          else if isOption argument then (some (.unknownOption argument), options)
          else if options.expression ≠ [] then (some (.secondExpression argument), options)
          else { options with expression := argument }.parse rest

end Options

end Rpn

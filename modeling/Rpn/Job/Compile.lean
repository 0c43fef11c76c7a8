import Rpn.Job
import Rpn.Options
import Rpn.Session
import Rpn.Shell.Quote

/-! The jobs of the compiler: compile an expression and print the assembly text, or have it
assembled and run. -/

namespace Rpn.Job

/-- Run a shell command and report every end but status 0.  The answer is its exit status, if it
has one. -/
def runCommand (command : Bytes) : Job (Option Nat) := do
  match ← shell command with
  | .notStarted =>
      say .errors (ascii "Error: could not start " ++ command).line
      return none
  | .killed =>
      say .errors (ascii "Error: " ++ command ++ ascii " terminated abnormally").line
      return none
  | .exited 0 => return some 0
  | .exited status =>
      say .errors
        (ascii "Error: " ++ command ++ ascii " exited with status " ++ .ofNat status).line
      return some status

def assemblyName (options : Options) : Bytes :=
  options.outputName ++ ascii ".s"

def assembleCommand (options : Options) : Bytes :=
  ascii "gcc -static -o " ++ Shell.quote options.outputName ++ ascii " " ++
    Shell.quote (assemblyName options)

/-- A name without a slash is looked for in the current directory. -/
def executablePath (options : Options) : Bytes :=
  if Ascii.slash ∈ options.outputName then options.outputName
  else ascii "./" ++ options.outputName

def runExecutable (options : Options) : Job ExitCode := do
  match ← runCommand (Shell.quote (executablePath options)) with
  | none => return .run
  | some _ => return .ok

/-- After the assembler succeeded. -/
def announce (options : Options) : Job Unit := do
  if options.keepAssembly then
    say .output (ascii "Generated assembly in " ++ assemblyName options).line
  say .output (ascii "Generated executable " ++ options.outputName).line
  sync

/-- Drop the assembly file, unless it is to be kept. -/
def clearAssembly (options : Options) : Job Unit := do
  if !options.keepAssembly then
    if !(← tryRemove (assemblyName options)) then
      say .errors (ascii "Error: Could not remove " ++ assemblyName options).line

/-- What follows on the status of the assembler. -/
def conclude (options : Options) (status : Option Nat) : Job ExitCode := do
  if status = some 0 then
    announce options
    if options.run then runExecutable options else return .ok
  else return .assemble

def assembleFile (options : Options) : Job ExitCode := do
  let status ← runCommand (assembleCommand options)
  clearAssembly options
  conclude options status

def buildExecutable (options : Options) (assembly : Bytes) : Job ExitCode := do
  let name := assemblyName options
  if !(← tryOpen name) then
    say .errors (ascii "Error: Could not open file " ++ name).line
    return .fileOpen
  if !(← tryWrite name assembly) then
    say .errors (ascii "Error: Could not write " ++ name).line
    return .fileOpen
  assembleFile options

def showIntermediates (options : Options) (compilation : Compilation) : Job Unit := do
  if options.showTokens then
    say .errors (Token.listing compilation.tokens)
  if options.showInstructions then
    say .errors (Instruction.listing compilation.program.instructions)

/-- What the options ask for. -/
def ofOptions (options : Options) : Job ExitCode :=
  match compile options.debug options.expression with
  | .error error => do
      say .errors (ascii "Error compiling: " ++ error.report).line
      return .compile
  | .ok compilation => do
      showIntermediates options compilation
      if options.assemble then buildExecutable options compilation.assembly
      else
        say .output compilation.assembly
        return .ok

def usage : Bytes :=
  (ascii "Usage: math-compiler [--debug] [--show-tokens] [--show-ir] [--compile] [--run]").line ++
    (ascii "                     [--save-asm] [--filename NAME] 'expression'").line

/-- The command line: refused arguments are answered with the usage. -/
def ofArguments (arguments : List Bytes) : Job ExitCode :=
  match ({} : Options).parse arguments with
  | (some error, _) => do
      say .errors error.message
      say .errors usage
      return error.exitCode
  | (none, options) => ofOptions options

end Rpn.Job

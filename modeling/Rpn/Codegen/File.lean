import Rpn.Assembly.Printer
import Rpn.Codegen.Block
import Rpn.Program

/-! The whole assembly file of a program. -/

namespace Rpn.Codegen

open Assembly

def preamble : List Line :=
  [ .heading [], .heading (ascii " Generated by math-compiler."), .heading [],
    .directive .intelOperands, .directive (.global entry), .blank ]

def cells : List Line :=
  [ .directive .data, .datum Cell.first (.double (ascii "0.0")),
    .datum Cell.second (.double (ascii "0.0")), .datum Cell.integer (.quad 0),
    .datum Cell.depth (.quad 0), .blank ]

def constants (pool : ConstantPool) : List Line :=
  match pool.literals with
  | [] => []
  | literals =>
      literals.map (fun literal => .datum (constantSymbol literal) (.double literal)) ++ [.blank]

def messages : List Line :=
  [ .datum Message.result (.text (ascii "Result %g\n")),
    .datum Message.zeroDivisor (.text (ascii "Attempted division by zero.  Aborting\n")),
    .datum Message.overflow (.text (ascii "Overflow - value out of range.  Aborting\n")),
    .datum Message.tooFew (.text (ascii "Insufficient entries on the stack.  Aborting\n")),
    .datum Message.tooMany
      (.text (ascii "Too many entries remaining on the stack.  Aborting\n")),
    .blank ]

def start : List Line :=
  [ .directive .code, .label entry, .instr (.push .rbp), .instr (.storeValue Cell.depth 0) ]

def debugBreak : Bool → List Line
  | false => []
  | true => [.blank, .remark (ascii "Debug-break"), .instr .breakpoint]

def header (debug : Bool) (pool : ConstantPool) : List Line :=
  preamble ++ cells ++ constants pool ++ messages ++ start ++ debugBreak debug

/-- Print the single entry that is left, and return. -/
def finish : List Line :=
  .blank :: .remark (ascii "[PRINT]") ::
    instrs ([ .compareCell Cell.depth 1, .jumpIf .above Handler.tooMany,
        .jumpIf .below Handler.tooFew ] ++ popInto Cell.first ++
      [ .address .rdi Message.result, .loadVector Cell.first, .moveHalf .eax 1,
        .call (ascii "printf"), .pop .rbp, .xorHalf .eax .eax, .ret ]) ++
    [.blank]

def handler (name message : Symbol) : List Line :=
  [ .label name, .instr (.address .rdi message), .instr (.jump Handler.report), .blank ]

/-- Failures print their message and exit.  The last handler falls through to the report. -/
def handlers : List Line :=
  handler Handler.zeroDivisor Message.zeroDivisor ++
  handler Handler.overflow Message.overflow ++
  handler Handler.tooMany Message.tooMany ++
  [ .label Handler.tooFew, .instr (.address .rdi Message.tooFew), .blank,
    .label Handler.report, .instr (.alignStack (-16)), .instr (.xorHalf .eax .eax),
    .instr (.call (ascii "printf")), .instr (.moveHalf .edi 1), .instr (.call (ascii "exit")),
    .blank ]

def footer : List Line :=
  finish ++ handlers ++ [.directive .plainStack]

/-- The file of checked operations with a pool of literals. -/
def lines (debug : Bool) (pool : ConstantPool) (operations : List Operation) : List Line :=
  header debug pool ++ blocksFrom 0 operations ++ footer

/-- The assembly text of a program, or the fault of its first instruction without code. -/
def generate (debug : Bool) (program : Program) : Except CompileError Bytes :=
  (Operation.ofInstructions program.instructions).map fun operations =>
    Assembly.render (lines debug program.constants operations)

end Rpn.Codegen

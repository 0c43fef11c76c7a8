import Rpn.Assembly.Printer

/-! Reading assembly text back, line by line. -/

namespace Rpn.Assembly

/-- What follows a given beginning of a text. -/
def after? (beginning text : Bytes) : Option Bytes :=
  if beginning.isPrefixOf text then some (text.drop beginning.length) else none

/-- What comes before a given end of a text. -/
def before? (ending text : Bytes) : Option Bytes :=
  (after? ending.reverse text.reverse).map List.reverse

/-- What stands between a given beginning and a given end. -/
def between? (beginning ending text : Bytes) : Option Bytes :=
  after? beginning text >>= before? ending

def integer? : Bytes → Option Int
  | Ascii.minus :: digits => (Bytes.toNat? digits).map fun number => -(number : Int)
  | digits => (Bytes.toNat? digits).map Int.ofNat

/-! Operands. -/

def Register.all : List Register :=
  [rax, rbx, rcx, rdx, rsi, rdi, rbp, r8, r9, r10, r11, r12, r13, r14, r15]

/-- The operands that are a name of their own. -/
def Operand.named : List (Bytes × Operand) :=
  Register.all.map (fun general => (general.name, register general)) ++
    [ (ascii "eax", half .eax), (ascii "edi", half .edi), (ascii "ax", statusWord),
      (ascii "ah", statusHigh), (ascii "rsp", stackPointer), (ascii "xmm0", vector) ]

def isSymbolByte (byte : UInt8) : Bool :=
  isDigit byte || byte == Ascii.underscore || (65 ≤ byte && byte ≤ 90) ||
    (97 ≤ byte && byte ≤ 122)

def isSymbol (text : Bytes) : Bool :=
  text ≠ [] && !startsWithDigit text && text.all isSymbolByte

def symbol? (text : Bytes) : Option Symbol :=
  if isSymbol text then some text else none

def Operand.read? (text : Bytes) : Option Operand :=
  Operand.named.lookup text <|>
  (integer? text).map value <|>
  (between? (ascii "qword ptr [rip + ") (ascii "]") text >>= symbol?).map cell <|>
  (between? (ascii "[rip + ") (ascii "]") text >>= symbol?).map relative <|>
  (before? (ascii "@PLT") text >>= symbol?).map external <|>
  (symbol? text).map target

/-! Instructions. -/

namespace Instr

/-- The instruction with a given mnemonic and given operands. -/
def ofParts? (mnemonic : Bytes) : List Operand → Option Instr
  | [] =>
      [ (ascii "cqo", signExtend), (ascii "fabs", floatUnary .absolute),
        (ascii "fsin", floatUnary .sine), (ascii "fcos", floatUnary .cosine),
        (ascii "fsqrt", floatUnary .squareRoot), (ascii "fsincos", floatUnary .sineCosine),
        (ascii "ret", ret), (ascii "int3", breakpoint) ].lookup mnemonic
  | [.register register] =>
      [ (ascii "push", push register), (ascii "pop", pop register),
        (ascii "dec", decrement register), (ascii "neg", negate register),
        (ascii "idiv", divide register) ].lookup mnemonic
  | [.cell cell] =>
      [ (ascii "inc", incrementCell cell), (ascii "dec", decrementCell cell),
        (ascii "fld", floatLoad cell), (ascii "fild", floatLoadInteger cell),
        (ascii "fstp", floatStore cell), (ascii "fadd", floatBinary .add cell),
        (ascii "fsub", floatBinary .subtract cell), (ascii "fmul", floatBinary .multiply cell),
        (ascii "fdiv", floatBinary .divide cell) ].lookup mnemonic
  | [.target symbol] =>
      [ (ascii "jmp", jump symbol), (ascii "jb", jumpIf .below symbol),
        (ascii "ja", jumpIf .above symbol), (ascii "jz", jumpIf .zero symbol),
        (ascii "jnz", jumpIf .notZero symbol), (ascii "jo", jumpIf .overflow symbol),
        (ascii "jg", jumpIf .greater symbol), (ascii "jle", jumpIf .notGreater symbol)
      ].lookup mnemonic
  | [.external symbol] => [(ascii "call", call symbol)].lookup mnemonic
  | [.statusWord] => [(ascii "fnstsw", floatStatus)].lookup mnemonic
  | [.register target, .register source] =>
      [ (ascii "mov", move target source), (ascii "test", test target source),
        (ascii "xor", xor target source), (ascii "imul", multiply target source),
        (ascii "cmove", moveIfEqual target source) ].lookup mnemonic
  | [.register register, .value value] =>
      [ (ascii "mov", moveValue register value), (ascii "cmp", compare register value),
        (ascii "shl", shiftLeft register value) ].lookup mnemonic
  | [.half register, .value value] => [(ascii "mov", moveHalf register value)].lookup mnemonic
  | [.half target, .half source] => [(ascii "xor", xorHalf target source)].lookup mnemonic
  | [.register register, .cell cell] =>
      [ (ascii "mov", load register cell), (ascii "cvttsd2si", truncate register cell)
      ].lookup mnemonic
  | [.cell cell, .register register] => [(ascii "mov", store cell register)].lookup mnemonic
  | [.cell cell, .value value] =>
      [(ascii "mov", storeValue cell value), (ascii "cmp", compareCell cell value)].lookup mnemonic
  | [.register register, .relative symbol] =>
      [(ascii "lea", address register symbol)].lookup mnemonic
  | [.vector, .cell cell] => [(ascii "movq", loadVector cell)].lookup mnemonic
  | [.statusHigh, .value mask] => [(ascii "test", testStatus mask)].lookup mnemonic
  | [.stackPointer, .value mask] => [(ascii "and", alignStack mask)].lookup mnemonic
  | _ => none

/-- Every operand stands after a blank. -/
def readOperand? : Bytes → Option Operand
  | Ascii.space :: text => Operand.read? text
  | _ => none

def readOperands? (text : Bytes) : Option (List Operand) :=
  if text = [] then some [] else (text.splitOn Ascii.comma).mapM readOperand?

def read? (text : Bytes) : Option Instr := do
  let mnemonic := text.takeWhile (· != Ascii.space)
  ofParts? mnemonic (← readOperands? (text.drop mnemonic.length))

end Instr

/-! Lines. -/

def Directive.read? (text : Bytes) : Option Directive :=
  [intelOperands, data, code, plainStack].find? (·.render == text) <|>
  (after? (ascii ".globl ") text >>= symbol?).map global

def unescape? : Bytes → Option Bytes
  | [] => some []
  | Ascii.backslash :: byte :: rest =>
      if byte = 110 then (unescape? rest).map (Ascii.newline :: ·)
      else if byte = Ascii.doubleQuote ∨ byte = Ascii.backslash then
        (unescape? rest).map (byte :: ·)
      else none
  | byte :: rest =>
      if byte = Ascii.doubleQuote ∨ byte = Ascii.backslash then none
      else (unescape? rest).map (byte :: ·)

def Datum.read? (text : Bytes) : Option Datum :=
  (after? (ascii ".double ") text).map double <|>
  (after? (ascii ".quad ") text >>= Bytes.toNat?).map quad <|>
  (between? (ascii ".asciz \"") (ascii "\"") text >>= unescape?).map Datum.text

namespace Line

/-- A line that begins with a symbol: a label, or data after the colon. -/
def readNamed? (text : Bytes) : Option Line := do
  let name := text.takeWhile (· != Ascii.colon)
  let symbol ← symbol? name
  match text.drop name.length with
  | [Ascii.colon] => return .label symbol
  | Ascii.colon :: Ascii.space :: rest => return .datum symbol (← Datum.read? rest)
  | _ => none

def read? : Bytes → Option Line
  | [] => some .blank
  | Ascii.hash :: text => some (.heading text)
  | Ascii.tab :: Ascii.hash :: Ascii.space :: text => some (.remark text)
  | Ascii.tab :: text => (Instr.read? text).map .instr
  | Ascii.dot :: text => (Directive.read? (Ascii.dot :: text)).map .directive
  | text => readNamed? text

end Line

/-- The lines of a file, all of which are ended. -/
def read? (text : Bytes) : Option (List Line) :=
  let pieces := text.splitOn Ascii.newline
  if pieces.getLast? = some [] then pieces.dropLast.mapM Line.read? else none

end Rpn.Assembly

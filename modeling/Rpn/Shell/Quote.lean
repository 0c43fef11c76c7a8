import Rpn.Bytes

/-! Quoting an argument for the shell. -/

namespace Rpn.Shell

/-- A single quote cannot stand between single quotes: they are closed, it is escaped, and they
are opened again. -/
def quoteByte (byte : UInt8) : Bytes :=
  if byte = Ascii.singleQuote then ascii "'\\''" else [byte]

def quote (argument : Bytes) : Bytes :=
  Ascii.singleQuote :: argument.flatMap quoteByte ++ [Ascii.singleQuote]

end Rpn.Shell

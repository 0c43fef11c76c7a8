/-! How a run of the command line ends. -/

namespace Rpn

inductive ExitCode where
  | ok
  | usage
  | unknownOption
  | noExpression
  | compile
  | fileOpen
  | assemble
  | run
  deriving DecidableEq, Repr

def ExitCode.toNat : ExitCode → Nat
  | ok => 0
  | usage => 1
  | unknownOption => 2
  | noExpression => 3
  | compile => 4
  | fileOpen => 5
  | assemble => 6
  | run => 7

end Rpn

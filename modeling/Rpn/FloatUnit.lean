import Rpn.Assembly.Basic

/-! Floating-point arithmetic, left open.  A unit says what its operations compute; programs and
machine code mean something for every unit. -/

namespace Rpn

abbrev Word := BitVec 64

/-- Doubles are words; inside the unit numbers have a type of their own.  The trigonometric
operations refuse operands that are too large, and `sineCosine?` gives the sine first. -/
structure FloatUnit where
  Extended : Type
  literal : Bytes → Word
  load : Word → Extended
  loadInteger : Word → Extended
  store : Extended → Word
  binary : Assembly.FloatBinary → Extended → Word → Extended
  absolute : Extended → Extended
  squareRoot : Extended → Extended
  sine? : Extended → Option Extended
  cosine? : Extended → Option Extended
  sineCosine? : Extended → Option (Extended × Extended)
  truncate : Word → Word

namespace FloatUnit

/-- The double that an integer becomes. -/
def ofInt (unit : FloatUnit) (integer : Int) : Word :=
  unit.store (unit.loadInteger (BitVec.ofInt 64 integer))

/-- The double that two doubles are combined to. -/
def combine (unit : FloatUnit) (operation : Assembly.FloatBinary) (left right : Word) : Word :=
  unit.store (unit.binary operation (unit.load left) right)

end FloatUnit

/-- Zero of either sign. -/
def isZero (double : Word) : Bool :=
  double <<< 1 == 0

end Rpn

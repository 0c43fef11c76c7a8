import Rpn.FloatUnit
import Rpn.Operation

/-! The meaning of a program: its operations from left to right on a stack of doubles. -/

namespace Rpn

namespace Evaluation

inductive Failure where
  | tooFew
  | zeroDivisor
  | overflow
  | tooMany
  deriving DecidableEq, Repr

def leastInteger : Int := -9223372036854775808

def greatestInteger : Int := 9223372036854775807

def isInteger64 (integer : Int) : Bool :=
  leastInteger ≤ integer && integer ≤ greatestInteger

/-- The integer part of a double.  The least integer stands for those that have none. -/
def integer (unit : FloatUnit) (double : Word) : Except Failure Int :=
  let value := (unit.truncate double).toInt
  if value = leastInteger then .error .overflow else .ok value

/-- The double of an integer result, which must have 64 bits. -/
def ofInteger (unit : FloatUnit) (value : Int) : Except Failure Word :=
  if isInteger64 value then .ok (unit.ofInt value) else .error .overflow

def power (base exponent : Int) : Int :=
  if exponent ≤ 0 then 0 else base.pow exponent.toNat

def product : Nat → Nat
  | 0 => 1
  | count + 1 => (count + 1) * product count

def factorial (value : Int) : Int :=
  if value ≤ 0 then 0 else product value.toNat

end Evaluation

namespace Operation

open Evaluation

/-- The stack after an operation, its top first.  A binary operation combines the second entry and
the top in this order. -/
def apply (unit : FloatUnit) : Operation → List Word → Except Failure (List Word)
  | push literal, stack => .ok (unit.literal literal :: stack)
  | plus, top :: second :: rest => .ok (unit.combine .add second top :: rest)
  | minus, top :: second :: rest => .ok (unit.combine .subtract second top :: rest)
  | multiply, top :: second :: rest => .ok (unit.combine .multiply second top :: rest)
  | divide, top :: second :: rest =>
      if isZero top then .error .zeroDivisor
      else .ok (unit.combine .divide second top :: rest)
  | modulus, top :: second :: rest => do
      let divisor ← integer unit top
      let dividend ← integer unit second
      if divisor = 0 then .error .zeroDivisor
      else return (← ofInteger unit (dividend.tmod divisor)) :: rest
  | power, top :: second :: rest => do
      let exponent ← integer unit top
      let base ← integer unit second
      return (← ofInteger unit (Evaluation.power base exponent)) :: rest
  | factorial, top :: rest => do
      let value ← integer unit top
      return (← ofInteger unit (Evaluation.factorial value)) :: rest
  | abs, top :: rest => .ok (unit.store (unit.absolute (unit.load top)) :: rest)
  | sqrt, top :: rest => .ok (unit.store (unit.squareRoot (unit.load top)) :: rest)
  | sin, top :: rest =>
      match unit.sine? (unit.load top) with
      | some sine => .ok (unit.store sine :: rest)
      | none => .error .overflow
  | cos, top :: rest =>
      match unit.cosine? (unit.load top) with
      | some cosine => .ok (unit.store cosine :: rest)
      | none => .error .overflow
  | tan, top :: rest =>
      match unit.sineCosine? (unit.load top) with
      | some (sine, cosine) =>
          .ok (unit.store (unit.binary .divide sine (unit.store cosine)) :: rest)
      | none => .error .overflow
  | dup, top :: rest => .ok (top :: top :: rest)
  | swap, top :: second :: rest => .ok (second :: top :: rest)
  | _, _ => .error .tooFew

end Operation

namespace Evaluation

/-- The stack after some operations, or the failure of the first that fails. -/
def stack (unit : FloatUnit) (operations : List Operation) (start : List Word) :
    Except Failure (List Word) :=
  operations.foldlM (fun stack operation => operation.apply unit stack) start

/-- A program leaves a single value. -/
def result : List Word → Except Failure Word
  | [] => .error .tooFew
  | [value] => .ok value
  | _ => .error .tooMany

/-- The value of a program. -/
def evaluate (unit : FloatUnit) (operations : List Operation) : Except Failure Word :=
  stack unit operations [] >>= result

end Evaluation

end Rpn

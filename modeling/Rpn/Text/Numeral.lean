import Rpn.Text.Binary
import Rpn.Text.ByteSet

/-! Numbers as they stand at the front of texts, and their order.  Only serves the test environment.
-/

namespace Rpn.Text

/-- A decimal number: a sign, digits, and digits after a point. -/
structure Numeral where
  negative : Bool := false
  whole : Bytes := []
  places : Bytes := []

namespace Numeral

def read (text : Bytes) : Numeral × Bytes :=
  let text := text.dropWhile fun byte => isBlank byte
  let (negative, text) := match text with
    | Ascii.minus :: rest => (true, rest)
    | text => (false, text)
  let whole := text.takeWhile isDigit
  let text := text.drop whole.length
  match text with
  | Ascii.dot :: rest =>
      let places := rest.takeWhile isDigit
      ({ negative, whole, places }, rest.drop places.length)
  | text => ({ negative, whole }, text)

def scaled (numeral : Numeral) (places : Nat) : Int :=
  let digits := numeral.places ++ List.replicate (places - numeral.places.length) Ascii.zero
  let value : Nat := Bytes.valueOf (numeral.whole ++ digits)
  if numeral.negative then -(value : Int) else value

def compare (left right : Numeral) : Ordering :=
  let places := max left.places.length right.places.length
  Ord.compare (left.scaled places) (right.scaled places)

end Numeral

/-- The order of numbers that may have exponents.  A text without a number comes before all. -/
def compareFloats (left right : Bytes) : Ordering :=
  let read := fun (text : Bytes) =>
    (Binary.readPrefix? Binary.double (text.dropWhile isSpace)).map fun (number, _) =>
      Binary.toFloat number
  match read left, read right with
  | none, none => .eq
  | none, some _ => .lt
  | some _, none => .gt
  | some first, some second =>
      if first < second then .lt
      else if second < first then .gt
      else if first == second then .eq
      else if first.isNaN && second.isNaN then .eq
      else if first.isNaN then .lt
      else .gt

end Rpn.Text

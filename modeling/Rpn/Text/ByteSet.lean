import Rpn.Bytes

/-! Sets of bytes, as texts describe them by ranges and by the names of classes.  Part of the test
environment. -/

namespace Rpn.Text

structure ByteSet where
  ranges : List (UInt8 × UInt8)
  negated : Bool := false
  deriving DecidableEq, Repr

namespace ByteSet

def contains (set : ByteSet) (byte : UInt8) : Bool :=
  set.ranges.any (fun (low, high) => low ≤ byte && byte ≤ high) != set.negated

def classes : List (String × List (UInt8 × UInt8)) :=
  [ ("alpha", [(65, 90), (97, 122)]), ("digit", [(48, 57)]),
    ("alnum", [(48, 57), (65, 90), (97, 122)]), ("upper", [(65, 90)]), ("lower", [(97, 122)]),
    ("space", [(9, 13), (32, 32)]), ("blank", [(9, 9), (32, 32)]),
    ("punct", [(33, 47), (58, 64), (91, 96), (123, 126)]), ("print", [(32, 126)]),
    ("graph", [(33, 126)]), ("cntrl", [(0, 31), (127, 127)]),
    ("xdigit", [(48, 57), (65, 70), (97, 102)]) ]

def classRanges? (name : Bytes) : Option (List (UInt8 × UInt8)) :=
  (classes.find? fun entry => ascii entry.1 = name).map (·.2)

def members (set : ByteSet) : Bytes :=
  ((List.range 256).map (·.toUInt8)).filter set.contains

def foldCase (set : ByteSet) : ByteSet :=
  { set with ranges := set.ranges ++ set.ranges.flatMap fun range =>
      shifted range 65 90 32 ++ shifted range 97 122 224 }
where
  /-- The part of a range between two bounds, moved. -/
  shifted (range : UInt8 × UInt8) (low high move : UInt8) : List (UInt8 × UInt8) :=
    let first := max range.1 low
    let last := min range.2 high
    if first ≤ last then [(first + move, last + move)] else []

end ByteSet

def isUpper (byte : UInt8) : Bool :=
  65 ≤ byte && byte ≤ 90

def isLower (byte : UInt8) : Bool :=
  97 ≤ byte && byte ≤ 122

def isLetter (byte : UInt8) : Bool :=
  isUpper byte || isLower byte

def toUpper (byte : UInt8) : UInt8 :=
  if isLower byte then byte - 32 else byte

def toLower (byte : UInt8) : UInt8 :=
  if isUpper byte then byte + 32 else byte

def isSpace (byte : UInt8) : Bool :=
  byte == 32 || (9 ≤ byte && byte ≤ 13)

end Rpn.Text

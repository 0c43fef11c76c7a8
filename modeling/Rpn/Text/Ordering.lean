import Rpn.Text.ByteSet

/-! Orders of texts.  Only serves the test environment. -/

namespace Rpn.Text.Ordering

def bytes (left right : Bytes) : Ordering :=
  compare left right

def refine (first : Ordering) (second : Unit → Ordering) : Ordering :=
  match first with
  | .eq => second ()
  | decided => decided

def versionWeight (byte : Option UInt8) : Int :=
  match byte with
  | none => 0
  | some byte =>
      if byte = Ascii.tilde then -1
      else if isDigit byte then 0
      else if isLetter byte then byte.toNat
      else byte.toNat + 256

def versionWords : Bytes → Bytes → Ordering × Bytes × Bytes
  | left, right =>
      let first := left.takeWhile (!isDigit ·)
      let second := right.takeWhile (!isDigit ·)
      (words first second, left.drop first.length, right.drop second.length)
where
  words : Bytes → Bytes → Ordering
    | [], [] => .eq
    | [], byte :: _ => compare 0 (versionWeight (some byte))
    | byte :: _, [] => compare (versionWeight (some byte)) 0
    | first :: left, second :: right =>
        refine (compare (versionWeight (some first)) (versionWeight (some second)))
          fun _ => words left right

/-- The order of versions: numbers inside texts count by their value. -/
def versionsFrom : Nat → Bytes → Bytes → Ordering
  | 0, _, _ => .eq
  | bound + 1, left, right =>
      if left = [] ∧ right = [] then .eq
      else
        let (order, left, right) := versionWords left right
        refine order fun _ =>
          let first := left.takeWhile isDigit
          let second := right.takeWhile isDigit
          refine (compare (Bytes.valueOf first) (Bytes.valueOf second)) fun _ =>
            versionsFrom bound (left.drop first.length) (right.drop second.length)

/-- The length of a text without its endings, each a dot, a letter or tilde, and letters and
digits. -/
def stemLength (text : Bytes) : Nat :=
  let parts := text.splitOn Ascii.dot
  let isEnding := fun (part : Bytes) =>
    match part with
    | first :: rest =>
        (isLetter first || first == Ascii.tilde) &&
          rest.all fun byte => isLetter byte || isDigit byte || byte == Ascii.tilde
    | [] => false
  let endings := (parts.tail.reverse.takeWhile isEnding)
  text.length - (endings.map fun part => part.length + 1).foldl (· + ·) 0

def versions (left right : Bytes) : Ordering :=
  let compareWhole := fun (left right : Bytes) => versionsFrom (left.length + right.length + 1) left right
  refine (compareWhole (left.take (stemLength left)) (right.take (stemLength right))) fun _ =>
    refine (compareWhole left right) fun _ => bytes left right

end Rpn.Text.Ordering

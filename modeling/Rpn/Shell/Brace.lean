import Rpn.Shell.Word

/-! Alternatives and sequences between braces, which make several words of one.  Part of the test
environment. -/

namespace Rpn.Shell.Brace

inductive Atom where
  | byte (byte : UInt8)
  | piece (piece : Piece)

def atoms (word : Word) : List Atom :=
  word.flatMap fun
    | .text false content => content.map .byte
    | piece => [.piece piece]

def word (atoms : List Atom) : Word :=
  atoms.foldl (fun word atom =>
    match atom with
    | .byte byte => word.addText false [byte]
    | .piece (.text quoted content) => word.addText quoted content
    | .piece piece => word ++ [piece]) []

/-- Divide what follows an opening brace at the commas of its level.  The answer is the parts in
reverse and what follows the closing brace. -/
def divide : List Atom → Nat → List Atom → List (List Atom) →
    Option (List (List Atom) × List Atom)
  | [], _, _, _ => none
  | .byte Ascii.openBrace :: rest, depth, current, parts =>
      divide rest (depth + 1) (.byte Ascii.openBrace :: current) parts
  | .byte Ascii.closeBrace :: rest, 0, current, parts => some (current.reverse :: parts, rest)
  | .byte Ascii.closeBrace :: rest, depth + 1, current, parts =>
      divide rest depth (.byte Ascii.closeBrace :: current) parts
  | .byte Ascii.comma :: rest, 0, current, parts => divide rest 0 [] (current.reverse :: parts)
  | atom :: rest, depth, current, parts => divide rest depth (atom :: current) parts

def plain? : List Atom → Option Bytes
  | [] => some []
  | .byte byte :: rest => (plain? rest).map (byte :: ·)
  | _ => none

def toInt? (text : Bytes) : Option Int :=
  match text with
  | Ascii.minus :: digits => (Bytes.toNat? digits).map fun value => -(value : Int)
  | Ascii.plus :: digits => (Bytes.toNat? digits).map Int.ofNat
  | digits => (Bytes.toNat? digits).map Int.ofNat

def padded (width : Nat) (value : Int) : Bytes :=
  let digits := Bytes.ofNat value.natAbs
  let sign := if value < 0 then [Ascii.minus] else []
  sign ++ List.replicate (width - sign.length - digits.length) Ascii.zero ++ digits

def range (first last : Int) (step : Nat) : List Int :=
  let step := max step 1
  let count := (last - first).natAbs / step + 1
  (List.range count).map fun index =>
    if first ≤ last then first + (index * step : Nat) else first - (index * step : Nat)

def splitDots : Bytes → List Bytes
  | Ascii.dot :: Ascii.dot :: rest => [] :: splitDots rest
  | byte :: rest =>
      match splitDots rest with
      | first :: others => (byte :: first) :: others
      | [] => [[byte]]
  | [] => [[]]

def isPadded (text : Bytes) : Bool :=
  let digits := text.dropWhile (· == Ascii.minus)
  1 < digits.length && digits.head? == some Ascii.zero

def sequence? (text : Bytes) : Option (List Bytes) := do
  let (first, last, step) ← match splitDots text with
    | [first, last] => some (first, last, 1)
    | [first, last, step] => (toInt? step).map fun value => (first, last, value.natAbs)
    | _ => none
  match toInt? first, toInt? last with
  | some low, some high =>
      let width := if isPadded first || isPadded last then max first.length last.length else 0
      return (range low high step).map (padded width)
  | _, _ =>
      match first, last with
      | [low], [high] =>
          if isNameStart low ∧ isNameStart high then
            return (range low.toNat high.toNat step).map fun value => [value.toNat.toUInt8]
          else none
      | _, _ => none

def expandAtoms : Nat → List Atom → List (List Atom)
  | 0, atoms => [atoms]
  | _, [] => [[]]
  | bound + 1, atom :: rest =>
      let plainly := (expandAtoms bound rest).map (atom :: ·)
      match atom with
      | .byte Ascii.openBrace =>
          match divide rest 0 [] [] with
          | none => plainly
          | some ([only], after) =>
              match (plain? only).bind sequence? with
              | some texts => texts.flatMap fun text =>
                  (expandAtoms bound after).map (text.map Atom.byte ++ ·)
              | none => plainly
          | some (parts, after) =>
              parts.reverse.flatMap fun part =>
                (expandAtoms bound part).flatMap fun chosen =>
                  (expandAtoms bound after).map (chosen ++ ·)
      | _ => plainly

def expand (word : Word) : List Word :=
  let atoms := atoms word
  (expandAtoms (atoms.length + 1) atoms).map Brace.word

end Rpn.Shell.Brace

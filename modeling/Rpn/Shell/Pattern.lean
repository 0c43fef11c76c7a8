import Rpn.Text.ByteSet

/-! Patterns that match file names and other texts.  Part of the test environment. -/

namespace Rpn.Shell

/-- A byte of an expanded word.  Only a byte that was not quoted can have a meaning in a pattern,
and only a divisible one can separate fields. -/
structure Mark where
  byte : UInt8
  quoted : Bool
  divisible : Bool := false
  deriving DecidableEq, Repr

namespace Mark

def ofText (quoted : Bool) (text : Bytes) (divisible : Bool := false) : List Mark :=
  text.map fun byte => { byte, quoted, divisible }

def text (marks : List Mark) : Bytes :=
  marks.map (·.byte)

def stands (mark : Mark) (byte : UInt8) : Bool :=
  mark.byte == byte && !mark.quoted

end Mark

inductive Pattern.Count where
  | once
  | perhaps
  | repeatedly
  | often
  | never
  deriving DecidableEq, Repr

inductive Pattern.Element where
  | any
  | one
  | byte (byte : UInt8)
  | set (set : Text.ByteSet)
  | group (count : Pattern.Count) (choices : List (List Pattern.Element))

abbrev Pattern := List Pattern.Element

/-- How patterns are written.  With `caret` this mark negates a bracket expression, with `groups`
several patterns can stand between parentheses, and with `folded` capital and small letters are the
same. -/
structure Pattern.Dialect where
  caret : Bool := true
  groups : Bool := false
  folded : Bool := false

namespace Pattern

def readClass? (marks : List Mark) : Option (List (UInt8 × UInt8) × List Mark) := do
  let name := Mark.text (marks.takeWhile fun mark => Text.isLetter mark.byte)
  match marks.drop name.length with
  | colon :: bracket :: rest =>
      if colon.byte = Ascii.colon ∧ bracket.byte = Ascii.closeBracket then
        return (← Text.ByteSet.classRanges? name, rest)
      else none
  | _ => none

/-- The members of a bracket expression up to its closing bracket.  A bracket that comes first is a
member. -/
def readRanges : Nat → Bool → List Mark → Option (List (UInt8 × UInt8) × List Mark)
  | 0, _, _ => none
  | _, _, [] => none
  | bound + 1, first, mark :: rest => do
      if mark.stands Ascii.closeBracket ∧ ¬ first then return ([], rest)
      else
        let next := rest.headD { byte := 0, quoted := true }
        if mark.stands Ascii.openBracket ∧ next.stands Ascii.colon ∧
            (readClass? rest.tail).isSome then
          let (ranges, rest) ← readClass? rest.tail
          let (others, rest) ← readRanges bound false rest
          return (ranges ++ others, rest)
        else
          let (low, rest) := member mark rest
          match rest with
          | dash :: high :: after =>
              if dash.stands Ascii.minus ∧ ¬ high.stands Ascii.closeBracket then
                let (high, after) := member high after
                let (others, rest) ← readRanges bound false after
                return ((low, high) :: others, rest)
              else
                let (others, rest) ← readRanges bound false rest
                return ((low, low) :: others, rest)
          | _ =>
              let (others, rest) ← readRanges bound false rest
              return ((low, low) :: others, rest)
where
  member (mark : Mark) (rest : List Mark) : UInt8 × List Mark :=
    match rest with
    | escaped :: after =>
        if mark.stands Ascii.backslash then (escaped.byte, after) else (mark.byte, rest)
    | [] => (mark.byte, rest)

def foldSet (set : Text.ByteSet) : Text.ByteSet :=
  let members := (List.range 256).filterMap fun code =>
    let byte := code.toUInt8
    if set.contains (Text.toLower byte) || set.contains (Text.toUpper byte) then some (byte, byte)
    else none
  { ranges := members, negated := false }

def readSet (dialect : Dialect) (marks : List Mark) : Option (Element × List Mark) := do
  let (negated, marks) := match marks with
    | mark :: rest =>
        if mark.stands Ascii.exclamation ∨ (dialect.caret ∧ mark.stands Ascii.caret) then
          (true, rest)
        else (false, marks)
    | [] => (false, [])
  let (ranges, rest) ← readRanges (marks.length + 1) true marks
  if dialect.folded then
    let folded := foldSet { ranges, negated := false }
    return (.set { folded with negated }, rest)
  else return (.set { ranges, negated }, rest)

def ofByte (dialect : Dialect) (byte : UInt8) : Element :=
  if dialect.folded ∧ Text.isLetter byte then .set (foldSet { ranges := [(byte, byte)] })
  else .byte byte

def countOf? (mark : Mark) : Option Count :=
  if mark.quoted then none
  else
    match Char.ofNat mark.byte.toNat with
    | '@' => some .once
    | '?' => some .perhaps
    | '*' => some .repeatedly
    | '+' => some .often
    | '!' => some .never
    | _ => none

def readChoices (read : List Mark → Pattern × List Mark) :
    Nat → List Mark → Option (List Pattern × List Mark)
  | 0, _ => none
  | bound + 1, marks =>
      let (first, rest) := read marks
      match rest with
      | mark :: rest =>
          if mark.stands Ascii.closeParenthesis then some ([first], rest)
          else (readChoices read bound rest).map fun (others, rest) => (first :: others, rest)
      | [] => none

/-- The elements of a pattern, up to the end or in a group up to a bar or its closing parenthesis.
A backslash that is not quoted comes from a value and takes the meaning from the byte after it. -/
def readElements (dialect : Dialect) : Nat → Bool → List Mark → Pattern × List Mark
  | 0, _, marks => ([], marks)
  | _, _, [] => ([], [])
  | bound + 1, grouped, mark :: rest =>
      let continueWith := fun (element : Element) (rest : List Mark) =>
        let (others, rest) := readElements dialect bound grouped rest
        (element :: others, rest)
      let opensGroup := dialect.groups ∧
        (rest.head?).any fun next => next.stands Ascii.openParenthesis
      let group? : Option (Element × List Mark) := do
        let count ← if opensGroup then countOf? mark else none
        let (choices, rest) ← readChoices (readElements dialect bound true) bound (rest.drop 1)
        return (.group count choices, rest)
      match group? with
      | some (element, rest) => continueWith element rest
      | none =>
          if grouped ∧ (mark.stands Ascii.bar ∨ mark.stands Ascii.closeParenthesis) then
            ([], mark :: rest)
          else if mark.stands Ascii.asterisk then continueWith .any rest
          else if mark.stands Ascii.question then continueWith .one rest
          else if mark.stands Ascii.openBracket then
            match readSet dialect rest with
            | some (element, rest) => continueWith element rest
            | none => continueWith (.byte Ascii.openBracket) rest
          else if mark.stands Ascii.backslash then
            match rest with
            | [] => ([.byte Ascii.backslash], [])
            | escaped :: rest => continueWith (ofByte dialect escaped.byte) rest
          else continueWith (ofByte dialect mark.byte) rest

def ofMarks (marks : List Mark) (dialect : Dialect := {}) : Pattern :=
  (readElements dialect (marks.length + 1) false marks).1

def ofText (text : Bytes) : Pattern :=
  ofMarks (Mark.ofText false text)

def isOpen (pattern : Pattern) : Bool :=
  pattern.any fun
    | .byte _ => false
    | _ => true

/-- Whether a pattern matches the front of a text such that the rest is accepted. -/
def matchesFront : Nat → Pattern → Bytes → (Bytes → Bool) → Bool
  | 0, _, _, _ => false
  | _, [], text, accepts => accepts text
  | bound + 1, element :: rest, text, accepts =>
      let after := fun (text : Bytes) => matchesFront bound rest text accepts
      match element, text with
      | .any, [] => after []
      | .any, _ :: others => after text || matchesFront bound (element :: rest) others accepts
      | .one, _ :: others => after others
      | .byte expected, byte :: others => expected == byte && after others
      | .set wanted, byte :: others => wanted.contains byte && after others
      | .group count choices, text =>
          let once := fun (accepts : Bytes → Bool) =>
            choices.any fun choice => matchesFront bound choice text accepts
          match count with
          | .once => once after
          | .perhaps => after text || once after
          | .repeatedly =>
              after text || once fun left =>
                left.length < text.length && matchesFront bound (element :: rest) left accepts
          | .often =>
              once fun left => matchesFront bound (.group .repeatedly choices :: rest) left accepts
          | .never =>
              (List.range (text.length + 1)).any fun length =>
                !(choices.any fun choice =>
                  matchesFront bound choice (text.take length) List.isEmpty) &&
                  after (text.drop length)
      | _, [] => false

def maximalSteps : Nat := 1000000000000

def matchesWhole (pattern : Pattern) (text : Bytes) : Bool :=
  matchesFront maximalSteps pattern text List.isEmpty

def trimFront (pattern : Pattern) (longest : Bool) (text : Bytes) : Bytes :=
  let lengths := List.range (text.length + 1)
  let lengths := if longest then lengths.reverse else lengths
  match lengths.find? fun length => matchesWhole pattern (text.take length) with
  | some length => text.drop length
  | none => text

def trimBack (pattern : Pattern) (longest : Bool) (text : Bytes) : Bytes :=
  let lengths := List.range (text.length + 1)
  let lengths := if longest then lengths else lengths.reverse
  match lengths.find? fun length => matchesWhole pattern (text.drop length) with
  | some length => text.take length
  | none => text

def longestFront? (pattern : Pattern) (text : Bytes) : Option Nat :=
  (List.range (text.length + 1)).reverse.find? fun length =>
    matchesWhole pattern (text.take length)

end Pattern

end Rpn.Shell

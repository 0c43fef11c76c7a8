import Rpn.Text.ByteSet
import Std.Data.HashSet

/-! Regular expressions and where they match.  Only serves the test environment. -/

namespace Rpn.Text

inductive Regex.Assertion where
  | lineStart
  | lineEnd
  | textStart
  | textEnd
  | wordStart
  | wordEnd
  | wordBoundary
  | noWordBoundary
  | noWordBefore
  | noWordAfter
  deriving DecidableEq, Repr

/-- A regular expression.  `repeated` has a least and perhaps a greatest count, and `same` matches
what a group has matched. -/
inductive Regex where
  | empty
  | oneOf (set : ByteSet)
  | check (assertion : Regex.Assertion)
  | sequence (first second : Regex)
  | alternative (first second : Regex)
  | repeated (body : Regex) (least : Nat) (most : Option Nat)
  | group (number : Nat) (body : Regex)
  | same (number : Nat)

namespace Regex

/-! Programs that match. -/

/-- A step of a matching program.  After `fork` both ways are tried, the first one first. -/
inductive Step where
  | take (set : ByteSet)
  | check (assertion : Assertion)
  | fork (first second : Nat)
  | jump (target : Nat)
  | mark (slot : Nat)
  | same (number : Nat)
  | accept

/-- Steps that repeat steps.  Where a program begins is needed, as its jumps are absolute. -/
def copies (compile : Nat → List Step) : Nat → Nat → List Step
  | 0, _ => []
  | count + 1, start =>
      let first := compile start
      first ++ copies compile count (start + first.length)

def optionalCopies (compile : Nat → List Step) : Nat → Nat → List Step
  | 0, _ => []
  | count + 1, start =>
      let body := compile (start + 1)
      let rest := optionalCopies compile count (start + 1 + body.length)
      .fork (start + 1) (start + 1 + body.length + rest.length) :: body ++ rest

def compile : Regex → Nat → List Step
  | empty, _ => []
  | oneOf found, _ => [.take found]
  | check assertion, _ => [.check assertion]
  | same number, _ => [.same number]
  | sequence first second, start =>
      let front := compile first start
      front ++ compile second (start + front.length)
  | alternative first second, start =>
      let front := compile first (start + 1)
      let back := compile second (start + front.length + 2)
      .fork (start + 1) (start + front.length + 2) :: front ++
        .jump (start + front.length + 2 + back.length) :: back
  | group number body, start =>
      .mark (2 * number) :: compile body (start + 1) ++ [.mark (2 * number + 1)]
  | repeated body least most, start =>
      let front := copies (compile body) least start
      let after := start + front.length
      match most with
      | some most => front ++ optionalCopies (compile body) (most - least) after
      | none =>
          let loop := compile body (after + 1)
          front ++ .fork (after + 1) (after + loop.length + 2) :: loop ++ [.jump after]

def hasBackReference : Regex → Bool
  | same _ => true
  | sequence first second | alternative first second =>
      hasBackReference first || hasBackReference second
  | repeated body _ _ | group _ body => hasBackReference body
  | _ => false

/-- A program for matching.  `remembers` says that what matches can depend on groups. -/
structure Matcher where
  steps : Array Step
  remembers : Bool
  multiline : Bool := false

def matcher (regex : Regex) (multiline : Bool := false) : Matcher :=
  { steps := (compile regex 0 ++ [Step.accept]).toArray
    remembers := hasBackReference regex, multiline }

/-! Running programs. -/

def isWordByte (byte : UInt8) : Bool :=
  byte == Ascii.underscore || isDigit byte || isLetter byte

def holdsAt (multiline : Bool) (text : ByteArray) (place : Nat) : Assertion → Bool
  | .textStart => place == 0
  | .textEnd => place == text.size
  | .lineStart => place == 0 || (multiline && text.data[place - 1]? == some Ascii.newline)
  | .lineEnd => place == text.size || (multiline && text.data[place]? == some Ascii.newline)
  | .wordStart => !wordBefore && wordAfter
  | .wordEnd => wordBefore && !wordAfter
  | .wordBoundary => wordBefore != wordAfter
  | .noWordBoundary => wordBefore == wordAfter
  | .noWordBefore => !wordBefore
  | .noWordAfter => !wordAfter
where
  wordBefore : Bool := 0 < place && (text.data[place - 1]?).any isWordByte
  wordAfter : Bool := (text.data[place]?).any isWordByte

/-- The bounds of groups that were found so far, by slot. -/
abbrev Marks := List (Nat × Nat)

def setMark (marks : Marks) (slot place : Nat) : Marks :=
  (slot, place) :: marks.filter (·.1 ≠ slot)

structure Match where
  start : Nat
  stop : Nat
  marks : Marks

structure Way where
  step : Nat
  place : Nat
  marks : Marks

def Way.key (remembers : Bool) (way : Way) : Nat × Nat × Marks :=
  (way.step, way.place, if remembers then way.marks else [])

def repeatsAt (text : ByteArray) (start length place : Nat) : Bool :=
  place + length ≤ text.size &&
    (List.range length).all fun index => text.data[start + index]? == text.data[place + index]?

def advance (matcher : Matcher) (text : ByteArray) (way : Way) : List Way :=
  match matcher.steps[way.step]? with
  | none | some .accept => []
  | some (.take wanted) =>
      match text.data[way.place]? with
      | some byte =>
          if wanted.contains byte then [{ way with step := way.step + 1, place := way.place + 1 }]
          else []
      | none => []
  | some (.check assertion) =>
      if holdsAt matcher.multiline text way.place assertion then
        [{ way with step := way.step + 1 }]
      else []
  | some (.fork first second) => [{ way with step := first }, { way with step := second }]
  | some (.jump target) => [{ way with step := target }]
  | some (.mark slot) =>
      [{ way with step := way.step + 1, marks := setMark way.marks slot way.place }]
  | some (.same number) =>
      match way.marks.lookup (2 * number), way.marks.lookup (2 * number + 1) with
      | some start, some stop =>
          if repeatsAt text start (stop - start) way.place then
            [{ way with step := way.step + 1, place := way.place + (stop - start) }]
          else []
      | _, _ => []

def better (old : Option Match) (new : Match) : Option Match :=
  match old with
  | some found => if found.stop < new.stop then some new else old
  | none => some new

def explore (matcher : Matcher) (text : ByteArray) (start : Nat) :
    Nat → List Way → Std.HashSet (Nat × Nat × Marks) → Option Match → Option Match
  | 0, _, _, best => best
  | _, [], _, best => best
  | bound + 1, way :: ways, seen, best =>
      let key := way.key matcher.remembers
      if seen.contains key then explore matcher text start bound ways seen best
      else
        let seen := seen.insert key
        match matcher.steps[way.step]? with
        | some .accept =>
            explore matcher text start bound ways seen
              (better best { start, stop := way.place, marks := way.marks })
        | _ => explore matcher text start bound (advance matcher text way ++ ways) seen best

def maximalWays : Nat := 100000000

def matchAt (matcher : Matcher) (text : ByteArray) (start : Nat) : Option Match :=
  explore matcher text start maximalWays [{ step := 0, place := start, marks := [] }] {} none

/-- The longest of the first matches from a place on.  The number bounds how many places are
left. -/
def searchFrom (matcher : Matcher) (text : ByteArray) : Nat → Nat → Option Match
  | 0, _ => none
  | left + 1, start =>
      match matchAt matcher text start with
      | some found => some found
      | none => searchFrom matcher text left (start + 1)

def Matcher.search (matcher : Matcher) (text : ByteArray) (start : Nat := 0) : Option Match :=
  searchFrom matcher text (text.size + 1 - start) start

def Matcher.isMatch (matcher : Matcher) (text : Bytes) : Bool :=
  (matcher.search text.toByteArray).isSome

/-- The bounds of a group; group 0 is the whole match. -/
def Match.group? (found : Match) (number : Nat) : Option (Nat × Nat) := do
  if number = 0 then some (found.start, found.stop)
  else return (← found.marks.lookup (2 * number), ← found.marks.lookup (2 * number + 1))

def Match.text (found : Match) (text : ByteArray) (number : Nat) : Bytes :=
  match found.group? number with
  | some (start, stop) => (text.extract start stop).toList
  | none => []

end Regex

end Rpn.Text

import Rpn.Text.ByteSet
import Rpn.Text.Regex

/-! Expressions whose matches are searched by trying one way after the other.  The first way that
leads to a match counts, and an expression can ask for more than a regular one: what stands around a
place, and parts that are not tried again.  Only serves the test environment. -/

namespace Rpn.Text.Backtrack

inductive Anchor where
  | textStart
  | textEnd
  | lastLineEnd
  | lineStart
  | lineEnd
  | wordBoundary
  | noWordBoundary
  deriving DecidableEq, Repr

/-- An expression.  `look` asks what follows, or what stands before if it has the lengths that this
can have; `keepFrom` moves the start of the match. -/
inductive Expr where
  | empty
  | oneOf (set : ByteSet)
  | sequence (first second : Expr)
  | either (first second : Expr)
  | repeated (inner : Expr) (least : Nat) (most : Option Nat) (lazily : Bool)
  | group (number : Nat) (inner : Expr)
  | atomic (inner : Expr)
  | look (behind : Option (List Nat)) (negated : Bool) (inner : Expr)
  | same (number : Nat) (folded : Bool)
  | anchor (anchor : Anchor)
  | keepFrom

namespace Expr

def length? : Expr → Option Nat
  | .oneOf _ => some 1
  | .empty | .look _ _ _ | .anchor _ | .keepFrom => some 0
  | .sequence first second => do return (← first.length?) + (← second.length?)
  | .either first second => do
      let length ← first.length?
      if (← second.length?) = length then some length else none
  | .repeated inner least most _ => do
      if most = some least then return least * (← inner.length?) else none
  | .group _ inner | .atomic inner => inner.length?
  | .same _ _ => none

def lengths? : Expr → Option (List Nat)
  | .either first second => do return (← first.lengths?) ++ (← second.lengths?)
  | inner => inner.length?.map ([·])

def references : Expr → List Nat
  | .same number _ => [number]
  | .group _ inner | .repeated inner _ _ _ | .atomic inner | .look _ _ inner => inner.references
  | .sequence first second | .either first second => first.references ++ second.references
  | _ => []

end Expr

/-! Matching. -/

/-- How far a match has come: its place, its start and the bounds of its groups. -/
structure Way where
  place : Nat
  start : Nat
  groups : List (Nat × Nat × Nat) := []

section

variable (text : ByteArray)

def byteAt? (place : Nat) : Option UInt8 :=
  text.data[place]?

def holds (way : Way) : Anchor → Bool
  | .textStart => way.place == 0
  | .textEnd => way.place == text.size
  | .lastLineEnd => way.place == text.size ||
      (way.place + 1 == text.size && byteAt? text way.place == some Ascii.newline)
  | .lineStart => way.place == 0 || byteAt? text (way.place - 1) == some Ascii.newline
  | .lineEnd => way.place == text.size || byteAt? text way.place == some Ascii.newline
  | .wordBoundary => before != after
  | .noWordBoundary => before == after
where
  before : Bool := 0 < way.place && (byteAt? text (way.place - 1)).any Regex.isWordByte
  after : Bool := (byteAt? text way.place).any Regex.isWordByte

def repeats (folded : Bool) (start stop place : Nat) : Bool :=
  place + (stop - start) ≤ text.size &&
    (List.range (stop - start)).all fun index =>
      let first := (byteAt? text (start + index)).getD 0
      let second := (byteAt? text (place + index)).getD 0
      first == second || (folded && toLower first == toLower second)

/-- Match an expression at a place and then the rest, which is given as a function. -/
def run : Nat → Expr → Way → (Way → Option Way) → Option Way
  | 0, _, _, _ => none
  | bound + 1, expr, way, next =>
      match expr with
      | .empty => next way
      | .oneOf set =>
          match byteAt? text way.place with
          | some byte =>
              if set.contains byte then next { way with place := way.place + 1 } else none
          | none => none
      | .sequence first second => run bound first way fun way => run bound second way next
      | .either first second =>
          (run bound first way next).orElse fun _ => run bound second way next
      | .repeated inner least most lazily =>
          let fewer := most.map (· - 1)
          if most = some 0 then next way
          else if 0 < least then
            run bound inner way fun way =>
              run bound (.repeated inner (least - 1) fewer lazily) way next
          else
            let more := fun (_ : Unit) => run bound inner way fun after =>
              if after.place = way.place then next after
              else run bound (.repeated inner 0 fewer lazily) after next
            if lazily then (next way).orElse more
            else (more ()).orElse fun _ => next way
      | .group number inner =>
          run bound inner way fun after =>
            next { after with
              groups := (number, way.place, after.place) :: after.groups.filter (·.1 != number) }
      | .atomic inner => (run bound inner way some).bind next
      | .look behind negated inner =>
          let outcome := match behind with
            | none => run bound inner way some
            | some lengths => lengths.findSome? fun length =>
                if way.place < length then none
                else run bound inner { way with place := way.place - length } fun after =>
                  if after.place = way.place then some after else none
          match outcome, negated with
          | some after, false => next { way with groups := after.groups }
          | none, true => next way
          | _, _ => none
      | .same number folded =>
          match way.groups.lookup number with
          | some (start, stop) =>
              if repeats text folded start stop way.place then
                next { way with place := way.place + (stop - start) }
              else none
          | none => none
      | .anchor anchor => if holds text way anchor then next way else none
      | .keepFrom => next { way with start := way.place }

def maximalDepth : Nat := 1000000000

/-- The first match that begins at a place or after it.  The number bounds how many places are
left. -/
def searchFrom (whole : Expr) : Nat → Nat → Option Way
  | 0, _ => none
  | left + 1, start =>
      if text.size < start then none
      else
        (run text maximalDepth whole { place := start, start } some).orElse fun _ =>
          searchFrom whole left (start + 1)

end

def Expr.search (whole : Expr) (text : ByteArray) (start : Nat := 0) : Option Regex.Match :=
  (searchFrom text whole (text.size + 1 - start) start).map fun way =>
    { start := min way.start way.place, stop := way.place, marks := [] }

end Rpn.Text.Backtrack

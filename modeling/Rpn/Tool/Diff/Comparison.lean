import Rpn.Text.ByteSet
import Rpn.Text.Difference

/-! Two files that are compared line by line, and the changes between them.  Only serves the test
environment. -/

namespace Rpn.Tool.Diff

open Text Text.Difference

inductive Blanks where
  | exact
  | trailing
  | amount
  | all
  deriving DecidableEq

/-- When two lines count as the same, and which lines do not count at all. -/
structure Laxity where
  blanks : Blanks := .exact
  folded : Bool := false
  emptyLines : Bool := false

/-- A file by its lines, which hold no line end.  `complete` says that the last one has one. -/
structure Source where
  name : Bytes
  label : Option Bytes := none
  lines : Array Bytes := #[]
  complete : Bool := true
  modified : Nat := 0

namespace Source

def ofText (name : Bytes) (text : Bytes) (stripReturns : Bool) : Source :=
  let parts := text.splitOn Ascii.newline
  let complete := parts.getLast? = some []
  let lines := if complete then parts.dropLast else parts
  let lines := if !stripReturns then lines
    else lines.map fun line =>
      if line.getLast? = some Ascii.carriageReturn then line.dropLast else line
  { name, lines := lines.toArray, complete }

def lacksEnd (source : Source) (line : Nat) : Bool :=
  !source.complete && line + 1 == source.lines.size

def shownName (source : Source) : Bytes :=
  source.label.getD source.name

end Source

/-! What is compared of a line. -/

def trimTrailing (line : Bytes) : Bytes :=
  (line.reverse.dropWhile isSpace).reverse

def squeeze : Bool → Bytes → Bytes
  | _, [] => []
  | afterBlank, byte :: rest =>
      if isSpace byte then
        if afterBlank then squeeze true rest else Ascii.space :: squeeze true rest
      else byte :: squeeze false rest

def Laxity.key (laxity : Laxity) (line : Bytes) : Bytes :=
  let line := if laxity.folded then line.map toLower else line
  match laxity.blanks with
  | .exact => line
  | .trailing => trimTrailing line
  | .amount => squeeze false (trimTrailing line)
  | .all => line.filter (!isSpace ·)

def Laxity.isTrivial (laxity : Laxity) (line : Bytes) : Bool :=
  laxity.emptyLines && if laxity.blanks = .exact then line.isEmpty else line.all isSpace

/-! The changes. -/

structure Comparison where
  first : Source
  second : Source
  laxity : Laxity
  changes : List Change

/-- Compare two files.  `horizon` lines of equal beginnings and ends take part in the search. -/
def compare (laxity : Laxity) (minimal : Bool) (horizon : Nat) (first second : Source) :
    Comparison :=
  let exactLines := fun (source : Source) =>
    source.lines.toList.zipIdx.map fun (line, index) =>
      (line, source.lacksEnd index)
  let firstLines := exactLines first
  let secondLines := exactLines second
  let start := commonStart firstLines secondLines - horizon
  let firstRest := firstLines.drop start
  let secondRest := secondLines.drop start
  let finish := if first.complete = second.complete then
      commonStart firstRest.reverse secondRest.reverse - horizon
    else 0
  let keys := fun (lines : List (Bytes × Bool)) =>
    (lines.take (lines.length - finish)).map fun (line, lacksEnd) =>
      let key := laxity.key line
      if lacksEnd && laxity.blanks == .exact then key ++ [Ascii.newline] else key
  let (left, right) := classes (keys firstRest) (keys secondRest)
  let changes := (Difference.changes minimal left right).map fun change =>
    { change with first := change.first + start, second := change.second + start }
  { first, second, laxity, changes }

/-- What a group of changes does: lines go, lines come, or both. -/
inductive Effect where
  | removal
  | addition
  | replacement
  deriving DecidableEq

structure Hunk where
  changes : List Change
  effect : Effect
  start : Nat
  stop : Nat
  otherStart : Nat
  otherStop : Nat

namespace Comparison

def isTrivial (comparison : Comparison) (change : Change) : Bool :=
  comparison.laxity.emptyLines &&
    (comparison.first.lines.extract change.first (change.first + change.removed)).all
      comparison.laxity.isTrivial &&
    (comparison.second.lines.extract change.second (change.second + change.added)).all
      comparison.laxity.isTrivial

def hunk? (comparison : Comparison) (changes : List Change) : Option Hunk := do
  let head ← changes.head?
  let last ← changes.getLast?
  if changes.all comparison.isTrivial then none
  else
    let removes := changes.any fun change => 0 < change.removed
    let adds := changes.any fun change => 0 < change.added
    let effect := if removes && adds then .replacement
      else if removes then .removal else .addition
    return {
      changes, effect, start := head.first, stop := last.first + last.removed
      otherStart := head.second, otherStop := last.second + last.added }

def singles (comparison : Comparison) : List Hunk :=
  comparison.changes.filterMap fun change => comparison.hunk? [change]

/-- Changes in groups, so that those are together between which at most twice `context` lines
stand, or less than `context` if the second one does not count.  `group` is the last group so far, in
reverse. -/
def groups (comparison : Comparison) (context : Nat) : List Change → List Change →
    List (List Change)
  | [], [] => []
  | group, [] => [group.reverse]
  | [], change :: rest => groups comparison context [change] rest
  | last :: group, change :: rest =>
      let limit := if comparison.isTrivial change then context else 2 * context + 1
      if change.first - (last.first + last.removed) < limit then
        groups comparison context (change :: last :: group) rest
      else (last :: group).reverse :: groups comparison context [change] rest

def hunks (comparison : Comparison) (context : Nat) : List Hunk :=
  (groups comparison context [] comparison.changes).filterMap fun group =>
    (comparison.hunk? group).map fun hunk =>
      { hunk with
        start := hunk.start - context, otherStart := hunk.otherStart - context
        stop := min (hunk.stop + context) comparison.first.lines.size
        otherStop := min (hunk.otherStop + context) comparison.second.lines.size }

def differs (comparison : Comparison) : Bool :=
  !comparison.singles.isEmpty

end Comparison

end Rpn.Tool.Diff

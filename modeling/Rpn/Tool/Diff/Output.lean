import Rpn.Text.Calendar
import Rpn.Tool.Diff.Comparison

/-! The ways to show the changes between two files.  Only serves the test environment. -/

namespace Rpn.Tool.Diff

open Text Text.Difference

def Source.line (source : Source) (number : Nat) : Bytes :=
  Bytes.line (source.lines.getD number []) ++
    (if source.lacksEnd number then Bytes.line (ascii "\\ No newline at end of file") else [])

def Source.marked (mark : UInt8) (source : Source) (number : Nat) : Bytes :=
  mark :: Ascii.space :: source.line number

def rangeText (separator : UInt8) (start stop : Nat) : Bytes :=
  if start + 1 < stop then .ofNat (start + 1) ++ separator :: Bytes.ofNat stop else .ofNat stop

def numbersFrom (start stop : Nat) : List Nat :=
  List.range' start (stop - start)

def Effect.letter : Effect → UInt8
  | .removal => 100
  | .addition => 97
  | .replacement => 99

def Effect.removes (effect : Effect) : Bool :=
  effect != .addition

def Effect.adds (effect : Effect) : Bool :=
  effect != .removal

/-! Plain styles. -/

def normalHunk (comparison : Comparison) (hunk : Hunk) : Bytes :=
  rangeText Ascii.comma hunk.start hunk.stop ++ hunk.effect.letter ::
    Bytes.line (rangeText Ascii.comma hunk.otherStart hunk.otherStop) ++
    (numbersFrom hunk.start hunk.stop).flatMap
      (comparison.first.marked Ascii.less) ++
    (if hunk.effect = .replacement then Bytes.line (ascii "---") else []) ++
    (numbersFrom hunk.otherStart hunk.otherStop).flatMap
      (comparison.second.marked Ascii.greater)

/-! Styles with lines around the changes. -/

def headingLines (unified : Bool) (comparison : Comparison) : Bytes :=
  let line := fun (mark : String) (source : Source) =>
    match source.label with
    | some label => Bytes.line (ascii mark ++ label)
    | none =>
        let format := if unified then "%Y-%m-%d %H:%M:%S.%N %z" else "%a %b %e %T %Y"
        Bytes.line (ascii mark ++ source.name ++ Ascii.tab ::
          Calendar.format (Moment.ofNanoseconds source.modified) (ascii format))
  line (if unified then "--- " else "*** ") comparison.first ++
    line (if unified then "+++ " else "--- ") comparison.second

def countedRange (start stop : Nat) : Bytes :=
  if stop ≤ start then .ofNat stop ++ ascii ",0"
  else if stop = start + 1 then .ofNat stop
  else .ofNat (start + 1) ++ Ascii.comma :: Bytes.ofNat (stop - start)

def unifiedLines (comparison : Comparison) (stop : Nat) :
    Nat → List Change → Bytes
  | place, [] => (numbersFrom place stop).flatMap (kept comparison)
  | place, change :: rest =>
      (numbersFrom place change.first).flatMap (kept comparison) ++
        (numbersFrom change.first (change.first + change.removed)).flatMap
          (changed Ascii.minus comparison.first ·) ++
        (numbersFrom change.second (change.second + change.added)).flatMap
          (changed Ascii.plus comparison.second ·) ++
        unifiedLines comparison stop (change.first + change.removed) rest
where
  kept (comparison : Comparison) (number : Nat) : Bytes :=
    Ascii.space :: comparison.first.line number
  changed (mark : UInt8) (source : Source) (number : Nat) : Bytes :=
    mark :: source.line number

def unifiedHunk (comparison : Comparison) (hunk : Hunk) : Bytes :=
  ascii "@@ -" ++ countedRange hunk.start hunk.stop ++ ascii " +" ++
    countedRange hunk.otherStart hunk.otherStop ++
    Bytes.line (ascii " @@") ++
    unifiedLines comparison hunk.stop hunk.start hunk.changes

/-- The lines of one file in a hunk.  `extent` are the lines of that file that a change covers, and
`isPaired` says that the other file has lines there too. -/
def contextLines (source : Source) (sole : UInt8)
    (extent : Change → Nat × Nat) (isPaired : Change → Bool) (changes : List Change)
    (start stop : Nat) : Bytes :=
  (numbersFrom start stop).flatMap fun number =>
    let mark := match changes.find? fun change =>
        (extent change).1 ≤ number ∧ number < (extent change).2 with
      | some change => if isPaired change then Ascii.exclamation else sole
      | none => Ascii.space
    source.marked mark number

def contextHunk (comparison : Comparison) (hunk : Hunk) : Bytes :=
  Bytes.line (ascii "***************") ++
    Bytes.line (ascii "*** " ++ rangeText Ascii.comma hunk.start hunk.stop ++ ascii " ****") ++
    (if hunk.effect.removes then
      contextLines comparison.first Ascii.minus
        (fun change => (change.first, change.first + change.removed))
        (fun change => 0 < change.added) hunk.changes hunk.start hunk.stop
    else []) ++
    Bytes.line (ascii "--- " ++ rangeText Ascii.comma hunk.otherStart hunk.otherStop ++ ascii " ----") ++
    (if hunk.effect.adds then
      contextLines comparison.second Ascii.plus
        (fun change => (change.second, change.second + change.added))
        (fun change => 0 < change.removed) hunk.changes hunk.otherStart hunk.otherStop
    else [])

/-! Side by side. -/

/-- Two columns: how wide each is, and where the second one begins. -/
structure Columns where
  half : Nat
  second : Nat
  changesOnly : Bool := false

/-- Columns of a whole width: as wide as possible, with a gutter of three bytes, and such that tabs
in the second one fall on the same places. -/
def Columns.ofWidth (width : Nat) : Columns :=
  let gutter := 3
  let place := width / 2 + 5 + width % 2
  let place := place - place % 8
  let half := if place ≤ gutter ∨ width ≤ place then 0 else min (place - gutter) (width - place)
  { half, second := if half = 0 then width else place }

def blanksTo (column target : Nat) : Bytes :=
  let tabs := target / 8 - column / 8
  let column := if tabs = 0 then column else target / 8 * 8
  List.replicate tabs Ascii.tab ++ List.replicate (target - column) Ascii.space

/-- A line as far as it fits in a column that begins at `indent`, and how far it reaches.  `inner`
counts the columns of the whole line and `outer` those that are shown. -/
def halfLine (indent limit : Nat) : Nat → Nat → Bytes → Bytes × Nat
  | _, outer, [] => ([], outer)
  | inner, outer, byte :: rest =>
      if byte = Ascii.tab then
        let blanks := 8 - inner % 8
        let stop := outer + blanks
        if inner ≠ outer then halfLine indent limit (inner + blanks) outer rest
        else if stop < limit then
          let (text, column) := halfLine indent limit (inner + blanks) stop rest
          (byte :: text, column)
        else halfLine indent limit (inner + blanks) outer rest
      else if byte = Ascii.carriageReturn then
        let (text, column) := halfLine indent limit 0 0 rest
        (byte :: blanksTo 0 indent ++ text, column)
      else if byte = 8 then
        if inner = 0 ∨ limit < inner then halfLine indent limit (inner - 1) outer rest
        else if outer < inner then
          let (text, column) := halfLine indent limit (inner - 1) (inner - 1) rest
          (List.replicate (inner - 1 - outer) Ascii.space ++ text, column)
        else
          let (text, column) := halfLine indent limit (inner - 1) (inner - 1) rest
          (byte :: text, column)
      else if byte < Ascii.space ∨ 127 ≤ byte then
        let (text, column) := halfLine indent limit inner outer rest
        (if inner < limit then byte :: text else text, column)
      else if inner < limit then
        let (text, column) := halfLine indent limit (inner + 1) (inner + 1) rest
        (byte :: text, column)
      else halfLine indent limit (inner + 1) outer rest

def sideLine (columns : Columns) (comparison : Comparison) (left : Option Nat)
    (mark : UInt8) (right : Option Nat) : Bytes :=
  let ended := fun (source : Source) (number : Option Nat) =>
    number.any fun number => !source.lacksEnd number
  let leftEnded := ended comparison.first left
  let (leftText, column) := match left with
    | some number =>
        halfLine 0 columns.half 0 0 (comparison.first.lines.getD number [])
    | none => ([], 0)
  let (markText, column) := if mark = Ascii.space then ([], column)
    else
      let place := (columns.half + columns.second - 1) / 2
      let mark := if mark = Ascii.bar ∧ leftEnded ≠ ended comparison.second right then
          (if leftEnded then Ascii.slash else Ascii.backslash)
        else mark
      (blanksTo column place ++ [mark], max column place + 1)
  let rightText := match right with
    | some number =>
        let line := comparison.second.lines.getD number []
        if line.isEmpty ∧ !comparison.second.lacksEnd number then []
        else
          blanksTo column columns.second ++
            (halfLine columns.second columns.half 0 0 line).1
    | none => []
  let text := leftText ++ markText ++ rightText
  if leftEnded ∨ ended comparison.second right then Bytes.line text else text

def sideCommon (columns : Columns) (comparison : Comparison)
    (start stop otherStart otherStop : Nat) : Bytes :=
  if columns.changesOnly then []
  else
    let both := min (stop - start) (otherStop - otherStart)
    ((List.range both).flatMap fun index =>
      sideLine columns comparison (some (start + index)) Ascii.space
        (some (otherStart + index))) ++
    ((numbersFrom (otherStart + both) otherStop).flatMap fun number =>
      sideLine columns comparison none Ascii.closeParenthesis (some number)) ++
    (numbersFrom (start + both) stop).flatMap fun number =>
      sideLine columns comparison (some number) Ascii.openParenthesis none

def sideHunks (columns : Columns) (comparison : Comparison) :
    Nat → Nat → List Hunk → Bytes
  | place, otherPlace, [] =>
      sideCommon columns comparison place comparison.first.lines.size otherPlace
        comparison.second.lines.size
  | place, otherPlace, hunk :: rest =>
      let both := if hunk.effect = .replacement then
          min (hunk.stop - hunk.start) (hunk.otherStop - hunk.otherStart)
        else 0
      sideCommon columns comparison place hunk.start otherPlace hunk.otherStart ++
        ((List.range both).flatMap fun index =>
          sideLine columns comparison (some (hunk.start + index)) Ascii.bar
            (some (hunk.otherStart + index))) ++
        ((numbersFrom (hunk.otherStart + both) hunk.otherStop).flatMap fun number =>
          sideLine columns comparison none Ascii.greater (some number)) ++
        ((numbersFrom (hunk.start + both) hunk.stop).flatMap fun number =>
          sideLine columns comparison (some number) Ascii.less none) ++
        sideHunks columns comparison hunk.stop hunk.otherStop rest

end Rpn.Tool.Diff
